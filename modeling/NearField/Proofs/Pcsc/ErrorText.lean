import NearField.Pcsc.Connection
import NearField.Proofs.Noted
import NearField.Proofs.Pcsc.Recoding
import NearField.Proofs.Reader.Call
import NearField.Simulated.Card

/-!
# The words of a smart card service for a failure

A connected reader keeps the code that the last call of its channel ended with, and has the text of
that code for a failure that the code can stand for.  Operations that are refused before any call
leave the code that was there.  So the text is about an operation exactly if the operation made a
call (`codeText_explains_iff`): then its last call failed with the code.  Otherwise the code is left
over from an earlier operation.

Whatever an operation does, it makes no call and leaves the code, or leaves the code of its last
call (`Follows`).  That goes through every way in which operations are put together, and the text
about a reader, whose questions leave no code, never fails.
-/

namespace NearField.Pcsc

open Simulated

/-- How a call of a channel ended, without what it gave. -/
abbrev Ending : Type := Except Scard Unit

variable {σ α β : Type}

/-- How a call ended that ended so. -/
def Ending.of (r : Except Scard α) : Ending := r.map fun _ => ()

/-- A channel that notes how its calls end. -/
instance [CardChannel σ] : CardChannel (Noted Ending σ) where
  status := Noted.recording Ending.of CardChannel.status
  transmit apdu capacity := Noted.recording Ending.of (CardChannel.transmit apdu capacity)
  reconnect share protocols d :=
    Noted.recording Ending.of (CardChannel.reconnect share protocols d)
  getAttribute a := Noted.recording Ending.of (CardChannel.getAttribute a)
  disconnect d n := { n with world := CardChannel.disconnect d n.world }

namespace Connection

/-- How the calls of a reader's channel ended. -/
def endings (c : Connection (Noted Ending σ)) : List Ending := c.channel.notes

/-- No call is made, and the code stays. -/
structure Untouched (c c' : Connection (Noted Ending σ)) : Prop where
  endings : c'.endings = c.endings
  code : c'.lastCode = c.lastCode

/-- Calls are made, and the code that is kept is that of the last. -/
def Records (c c' : Connection (Noted Ending σ)) : Prop :=
  ∃ made last, c'.endings = c.endings ++ made ++ [last] ∧ c'.lastCode = codeOf last

/-- No call is made, or the code follows the calls. -/
def Follows (c c' : Connection (Noted Ending σ)) : Prop := Untouched c c' ∨ Records c c'

variable {c c₁ c' : Connection (Noted Ending σ)}

theorem Follows.grows (h : Follows c c') : ∃ made, c'.endings = c.endings ++ made := by
  rcases h with h | ⟨made, last, h, -⟩
  · exact ⟨[], by rw [h.endings, List.append_nil]⟩
  · exact ⟨made ++ [last], by rw [h, List.append_assoc]⟩

instance : IsPreorder (Connection (Noted Ending σ)) Follows where
  refl _ := .inl ⟨rfl, rfl⟩
  trans := by
    rintro c c₁ c' h (h' | ⟨made, last, h', hcode⟩)
    · rcases h with h | ⟨made, last, h, hcode⟩
      · exact .inl ⟨h'.endings.trans h.endings, h'.code.trans h.code⟩
      · exact .inr ⟨made, last, h'.endings.trans h, h'.code.trans hcode⟩
    · obtain ⟨before, hbefore⟩ := h.grows
      exact .inr ⟨before ++ made, last, by rw [h', hbefore, List.append_assoc c.endings], hcode⟩

/-- Every run makes no call, or leaves the code of its last. -/
abbrev Faithful (σ : Type) (a : Op (Connection (Noted Ending σ)) α) : Prop :=
  Act.Leads Follows (fun _ => True) a

/-- The code of a call does not depend on what the call gave. -/
theorem codeOf_ending (r : Except Scard α) : codeOf (Ending.of r) = codeOf r := by
  cases r <;> rfl

/-- A call that is recorded leaves its own code, and is noted last. -/
theorem faithful_recorded (a : Act Scard σ α) :
    Faithful σ (recorded (Noted.recording Ending.of a)) := by
  intro c
  obtain ⟨hresult, hstate⟩ := Noted.recording_run Ending.of a c.channel
  refine ⟨.inr ⟨[], Ending.of (a c.channel.world).result, ?_, ?_⟩, fun _ _ => trivial⟩
  · exact (congrArg Noted.notes hstate).trans (by rw [List.append_nil]; rfl)
  · rw [codeOf_ending]
    exact congrArg codeOf hresult

/-! ## Parts without calls -/

theorem faithful_debug (message : String) :
    Faithful σ (debug message) := Act.leads_log _ _ _

theorem faithful_throw (e : Error) : Faithful σ (throw e : Op _ α) :=
  Act.leads_throw trivial

/-- A condition fails without a call. -/
theorem faithful_require (p : Bool) (e : Error) :
    Faithful σ (Act.require p e) := by
  cases p with
  | false => exact Act.leads_throw trivial
  | true => exact Act.leads_pure ()

/-- A copy that is refused makes no call. -/
theorem faithful_copyOp (target source : Bytes) (count : Nat) :
    Faithful σ (BoundedCopy.copyOp target source count) := by
  intro c
  unfold BoundedCopy.copyOp
  split
  · exact ⟨refl_of Follows c, fun _ _ => trivial⟩
  · exact ⟨refl_of Follows c, fun _ _ => trivial⟩

theorem faithful_wipeOp (buffer : Bytes) :
    Faithful σ (BoundedCopy.wipeOp buffer) := by
  intro c
  unfold BoundedCopy.wipeOp
  split
  · exact ⟨refl_of Follows c, fun _ _ => trivial⟩
  · exact ⟨refl_of Follows c, fun _ _ => trivial⟩

/-- A question whose answer may be missing makes its calls all the same. -/
theorem faithful_orDefault (d : α) {a : Op (Connection (Noted Ending σ)) α} (ha : Faithful σ a) :
    Faithful σ (orDefault d a) := by
  refine ha.attempt.bind fun r => ?_
  split
  · exact Act.leads_pure _
  · exact Act.leads_pure _
  · exact faithful_throw _

theorem faithful_map (f : α → β) {a : Op (Connection (Noted Ending σ)) α} (ha : Faithful σ a) :
    Faithful σ (f <$> a) := by
  rw [← bind_pure_comp]
  exact ha.bind fun _ => Act.leads_pure _

theorem faithful_forInitiator (xs : List α) (mode : Mode) :
    Faithful σ (forInitiator xs mode) := by
  cases mode with
  | initiator => exact Act.leads_pure _
  | target => exact faithful_throw _

variable [CardChannel σ]

/-! ## Calls of the channel -/

/-- A command makes one call, and what follows that only reports it. -/
theorem faithful_transmit (apdu : Bytes) (capacity : Nat) :
    Faithful σ (transmit apdu capacity) := by
  refine .get_bind fun c => (Act.leads_log _ _ _).bind fun _ => ?_
  refine (faithful_recorded _).bind fun r => ?_
  cases r with
  | error e => exact (faithful_debug _).bind fun _ => faithful_throw _
  | ok reply => exact (Act.leads_log _ _ _).bind fun _ => Act.leads_pure _

/-- The question for the status leaves its code even where its failure is let pass. -/
theorem faithful_status : Faithful σ (status) := by
  refine (faithful_recorded _).bind fun r => ?_
  cases r with
  | ok s => exact Act.leads_pure _
  | error e =>
      exact .ite (Act.leads_pure _) ((faithful_debug _).bind fun _ => faithful_throw _)

/-- A connection that is taken up again keeps its parameters only once the call was made. -/
theorem faithful_reconnect (share : ShareMode) (protocols : Protocols) (d : Disposition) :
    Faithful σ (reconnect share protocols d) := by
  have hkeep : Faithful σ (modify fun c => { c with share := share, protocols := protocols }) :=
    Act.leads_modify fun _ => .inl ⟨rfl, rfl⟩
  refine (faithful_recorded _).bind fun r => ?_
  cases r with
  | ok _ => exact hkeep
  | error e =>
      exact .ite ((faithful_debug _).bind fun _ => (faithful_throw _).bind fun _ => hkeep) hkeep

theorem faithful_iccType : Faithful σ (iccType) := by
  refine (faithful_recorded _).bind fun r => ?_
  split
  · exact Act.leads_pure _
  · exact Act.leads_pure _

/-! ## Items -/

/-- A question for an item is refused, if at all, behind its call. -/
theorem faithful_getData (item : DataItem) : Faithful σ (getData item) := by
  have hcopy (data : Bytes) : Faithful σ
      (BoundedCopy.copyOp (List.replicate data.length 0) data data.length) :=
    faithful_copyOp _ _ _
  refine (faithful_transmit _ _).bind fun reply => ?_
  refine .ite ((faithful_debug _).bind fun _ => (faithful_throw _).bind fun _ => ?_) ?_
  all_goals
    refine .ite ?_ (hcopy _)
    exact (faithful_debug _).bind fun _ => (faithful_throw _).bind fun _ => hcopy _

theorem faithful_getSak : Faithful σ getSak := by
  refine (faithful_getData .sak).bind fun data => ?_
  cases data with
  | nil => exact faithful_throw _
  | cons sak rest => exact Act.leads_pure _

theorem faithful_getAtqa : Faithful σ getAtqa := by
  refine (faithful_getData .atqa).bind fun data => ?_
  cases vector? 2 data with
  | none => exact faithful_throw _
  | some atqa => exact Act.leads_pure _

/-- Three questions, each of which may go unanswered. -/
theorem faithful_askInfoA (uid : Bytes) : Faithful σ (askInfoA uid) := by
  refine (faithful_orDefault _ (faithful_map _ faithful_getAtqa)).bind fun atqa => ?_
  refine (faithful_orDefault _ faithful_getSak).bind fun sak => ?_
  exact (faithful_orDefault _ (faithful_getData .ats)).bind fun ats => Act.leads_pure _

/-- A target is refused before its items are asked for. -/
theorem faithful_makeTarget (icc : UInt8) (atr uid : Bytes) (f : Family) :
    Faithful σ (makeTarget icc atr uid f) := by
  cases f with
  | iso14443a =>
      refine (faithful_require _ _).bind fun _ => .get_bind fun c => .ite ?_ (Act.leads_pure _)
      exact (faithful_askInfoA uid).bind fun _ => Act.leads_pure _
  | iso14443b => exact (faithful_require _ _).bind fun _ => Act.leads_pure _
  | _ => exact faithful_throw _

/-! ## The table of operations -/

theorem faithful_presentCard : Faithful σ presentCard := by
  refine faithful_status.bind fun s => .ite ?_ (Act.leads_pure _)
  exact (faithful_debug _).bind fun _ => (faithful_throw _).bind fun _ => Act.leads_pure _

/-- A selection is refused for its speed before any call, which leaves the code there was. -/
theorem faithful_selectPassive (m : Modulation) (data : Bytes) :
    Faithful σ (selectPassive m data) := by
  refine (faithful_require _ _).bind fun _ => faithful_presentCard.bind fun s => ?_
  refine faithful_iccType.bind fun icc => ?_
  refine (faithful_getData .uid).attempt.bind fun uid => ?_
  refine (faithful_makeTarget _ _ _ _).attempt.bind fun made => ?_
  cases made with
  | error e => exact (faithful_debug _).bind fun _ => faithful_throw _
  | ok t => exact (faithful_reconnect _ _ _).bind fun _ => Act.leads_pure _

theorem faithful_execute (apdu : Bytes) (capacity : Nat) :
    Faithful σ (Feitian.execute transmit apdu capacity) := by
  refine (Act.leads_log _ _ _).bind fun _ => (faithful_transmit _ _).bind fun response => ?_
  refine (Act.leads_log _ _ _).bind fun _ => (faithful_require _ _).bind fun _ => ?_
  exact Act.leads_pure _

/-- A key that is sent ahead is wiped without a call. -/
theorem faithful_goAhead (load? : Option Bytes) :
    Faithful σ (Feitian.goAhead transmit load?) := by
  cases load? with
  | none => exact Act.leads_pure _
  | some load =>
      refine (faithful_transmit _ _).attempt.bind fun loaded => (faithful_wipeOp _).bind fun _ => ?_
      refine (Act.leads_ofExcept fun _ _ => trivial).bind fun reply => ?_
      exact .ite (faithful_wipeOp _) (Act.leads_pure _)

/-- What cannot be routed is refused before any call. -/
theorem faithful_route (tx : Bytes) (capacity : Nat) :
    Faithful σ (Feitian.route transmit tx capacity) := by
  rw [Feitian.route_eq]
  refine (Act.leads_ofExcept fun _ _ => trivial).bind fun p => ?_
  exact (faithful_goAhead p.1).bind fun _ => faithful_execute p.2 capacity

theorem faithful_transceiveBytes (tx : Bytes) (capacity : Nat) (t : Timeout) :
    Faithful σ (transceiveBytes tx capacity t) :=
  .get_bind fun _ => .ite ((Act.leads_log _ _ _).bind fun _ => faithful_route tx capacity)
    (faithful_transmit tx capacity)

/-- A card is looked for with a call, and compared without one. -/
theorem faithful_targetIsPresent (target : Option Target) :
    Faithful σ (targetIsPresent target) := by
  refine faithful_presentCard.bind fun s => ?_
  cases target with
  | none => exact Act.leads_pure _
  | some expected =>
      refine (faithful_makeTarget _ _ _ _).attempt.bind fun made => .ite ?_ (Act.leads_pure _)
      exact (faithful_debug _).bind fun _ => faithful_throw _

/-- Only switching the field makes a call, and its failure is let pass. -/
theorem faithful_setBool (p : Property) (enable : Bool) : Faithful σ (setBool p enable) := by
  refine .get_bind fun c => ?_
  cases p with
  | infiniteSelect => exact Act.leads_pure _
  | activateField => exact .ite (faithful_reconnect _ _ _).ignoring (Act.leads_pure _)
  | autoIso14443_4 | easyFraming | forceIso14443a | handleCrc | handleParity | forceSpeed106
  | acceptInvalidFrames | acceptMultipleFrames => exact faithful_require _ _
  | _ => exact faithful_throw _

/-- A question for the text about a reader may end in a failure, but that is no answer then. -/
theorem not_fails_attributeText {a : Attribute} {c c' : Connection σ} {e : Error} :
    ¬ (attributeText a).Fails c e c' := by
  intro h
  rcases Act.fails_bind.mp h with h | ⟨r, c₁, -, h⟩
  · cases h.1
  · cases r with
    | error _ => exact Act.not_fails_pure h
    | ok raw => exact Act.not_fails_pure h

/-- The text about a reader leaves out what it is not answered. -/
theorem not_fails_information {c c' : Connection σ} {e : Error} :
    ¬ information.Fails c e c' := by
  intro h
  rcases Act.fails_bind.mp h with h | ⟨model, c₁, -, h⟩
  · exact not_fails_attributeText h
  rcases Act.fails_bind.mp h with h | ⟨vendor, c₂, -, h⟩
  · exact not_fails_attributeText h
  rcases Act.fails_bind.mp h with h | ⟨version, c₃, -, h⟩
  · exact not_fails_attributeText h
  rcases Act.fails_bind.mp h with h | ⟨serial, c₄, -, h⟩
  · exact not_fails_attributeText h
  · exact Act.not_fails_pure h

/-! ## Operations -/

/-- An operation of a connected reader: a question for an item, or an entry of the table. -/
inductive Call : Type → Type 1 where
  | uid : Call Bytes
  | ats : Call Bytes
  | sak : Call UInt8
  | atqa : Call (Vector UInt8 2)
  | table {α : Type} (call : Reader.Call α) : Call α

/-- Runs an operation. -/
def Call.run : Call α → Op (Connection σ) α
  | .uid => getUid
  | .ats => getAts
  | .sak => getSak
  | .atqa => getAtqa
  | .table call => call.run

/-- The reader that operations leave, made in order. -/
def after : List (Sigma Call) → Connection σ → Connection σ
  | [], c => c
  | ⟨_, call⟩ :: calls, c => after calls (call.run c).state

/-- **An operation that fails** made no call and left the code, or left the code of its last
call. -/
theorem follows_of_fails (call : Call α) {c c' : Connection (Noted Ending σ)} {e : Error}
    (h : call.run.Fails c e c') : Follows c c' := by
  have follows {α : Type} {a : Op (Connection (Noted Ending σ)) α} (ha : Faithful σ a)
      (h : a.Fails c e c') : Follows c c' := h.2 ▸ (ha c).1
  cases call with
  | uid => exact follows (faithful_getData .uid) h
  | ats => exact follows (faithful_getData .ats) h
  | sak => exact follows faithful_getSak h
  | atqa => exact follows faithful_getAtqa h
  | table call =>
    cases call with
    | initiatorInit => exact absurd h Act.not_fails_pure
    | selectPassive m data => exact follows (faithful_selectPassive m data) h
    | transceiveBytes tx capacity t => exact follows (faithful_transceiveBytes tx capacity t) h
    | targetIsPresent t => exact follows (faithful_targetIsPresent t) h
    | setBool p enable => exact follows (faithful_setBool p enable) h
    | families mode => exact follows (faithful_forInitiator families mode) h
    | baudRates mode f => exact follows (faithful_forInitiator baudRates mode) h
    | information => exact absurd h not_fails_information
    | targetInit target capacity t => exact .inl (h.2 ▸ ⟨rfl, rfl⟩)
    | _ => exact follows (faithful_throw .deviceNotSupported) h

omit [CardChannel σ] in
/-- A text is that of the code that is kept, and the code reports a failure. -/
theorem text_of_describe? {c : Connection σ} {e : Error} {text : String}
    (h : c.describe? e = some text) : c.lastCode ≠ .success ∧ c.lastCode.text = text := by
  rw [describe?] at h
  by_cases hsuccess : c.lastCode = .success
  · rw [if_pos hsuccess] at h
    cases h
  · rw [if_neg hsuccess] at h
    exact ⟨hsuccess, (Option.ite_none_right_eq_some.mp h).2 |> Option.some.inj⟩

/-- A text is that of the code with which the last call failed. -/
def Explains (made : List Ending) (text : String) : Prop :=
  ∃ code, made.getLast? = some (.error code) ∧ code.text = text

/-- **The text for a failed operation is about the operation exactly if it made a call**, after any
operations and over any channel.  Then it is the text of the code with which the last call failed
that the operation made.  If it made none the text is left over: it was there before. -/
theorem codeText_explains_iff (calls : List (Sigma Call)) (call : Call α)
    (c₀ : Connection (Noted Ending σ)) {e : Error} {text : String} :
    let c := after calls c₀
    let o := call.run c
    o.result = .error e → o.state.describe? e = some text →
      ∃ made, o.state.endings = c.endings ++ made ∧ (Explains made text ↔ made ≠ []) ∧
        (made = [] → c.describe? e = some text) := by
  intro c o hresult htext
  obtain ⟨hfailure, hsame⟩ := text_of_describe? htext
  -- the operation left the code there was, or that of its last call
  rcases follows_of_fails call ⟨hresult, rfl⟩ with huntouched | ⟨made, last, hmade, hcode⟩
  · refine ⟨[], huntouched.endings.trans (List.append_nil _).symm, ?_, fun _ => ?_⟩
    · refine iff_of_false ?_ fun hne => hne rfl
      rintro ⟨code, hlast, -⟩
      cases hlast
    · have hkept : o.state.lastCode = c.lastCode := huntouched.code
      rw [describe?, hkept] at htext
      exact htext
  · refine ⟨made ++ [last], hmade.trans (List.append_assoc _ _ _), iff_of_true ?_ (by simp), ?_⟩
    · rw [hcode] at hfailure hsame
      cases last with
      | ok _ => exact absurd rfl hfailure
      | error code => exact ⟨code, List.getLast?_concat, hsame⟩
    · exact fun hnil => absurd hnil (by simp)

/-- A reader over a card in memory. -/
def inMemory (card : Card) : Connection (Noted Ending Card) := new ⟨card, []⟩ "ACS ACR122U"

/-- A command without an answer is spoken of in the words for it. -/
theorem codeText_explains_transmit :
    let c := inMemory {}
    let o := (Call.table (.transceiveBytes [0x30] 16 .default)).run c
    o.result = .error .io ∧ o.state.describe? .io = some "Transaction failed." ∧
      ∃ made, o.state.endings = c.endings ++ made ∧
        (Explains made "Transaction failed." ↔ made ≠ []) := by
  intro c o
  have hresult : o.result = .error .io := rfl
  have htext : o.state.describe? .io = some "Transaction failed." := by decide +kernel
  obtain ⟨made, hmade, hiff, -⟩ :=
    codeText_explains_iff [] (.table (.transceiveBytes [0x30] 16 .default)) c hresult htext
  exact ⟨hresult, htext, made, hmade, hiff⟩

/-- If the service once refused a parameter, then a speed that is not supported is later refused
without a call, and in the words of that refusal. -/
theorem codeText_leftover :
    let c := after [⟨_, .table (.targetIsPresent none)⟩]
      (inMemory { statusError := some .invalidParameter })
    let o := (Call.table (.selectPassive ⟨.iso14443a, .kbps212⟩ [])).run c
    o.result = .error .invalidArgument ∧
      o.state.describe? .invalidArgument = some "Invalid parameter given." ∧
      ¬ ∃ made, o.state.endings = c.endings ++ made ∧
        Explains made "Invalid parameter given." := by
  intro c o
  refine ⟨rfl, by decide +kernel, ?_⟩
  rintro ⟨made, hmade, code, hlast, -⟩
  have hsame : o.state.endings = c.endings := rfl
  obtain rfl := List.append_right_eq_self.mp (hmade.symm.trans hsame)
  cases hlast

end Connection

end NearField.Pcsc
