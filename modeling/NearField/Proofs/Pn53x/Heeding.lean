import NearField.Pn53x.Reader
import NearField.Proofs.Pn53x.Heard

/-!
# A target that is reported gone

The chip layer remembers a current target.  Two statuses report that it is gone (`Releases`).  A
run heeds them (`Heeds`) if it forgets the target when one of them is heard and leaves it as it was
otherwise.  An exchange of any command does so (`heedful_transceive`), and so does whatever is put
together from exchanges and from steps of the host that do not touch the target.

An operation that looks for a target either finds one, which is the current target from then on,
or does as every other operation (`Finding`).
-/

namespace NearField.Pn53x

/-- The status reports that the target is gone: it was released, or its card was discarded. -/
def Releases (status : UInt8) : Prop := statusCode status = 0x29 ∨ statusCode status = 0x2B

instance (status : UInt8) : Decidable (Releases status) := inferInstanceAs (Decidable (_ ∨ _))

/-- Among what crossed a link is a status that reports that the target is gone. -/
def Released (crossed : List Crossing) : Prop := ∃ status, Heard crossed status ∧ Releases status

/-- The error of a released target stands for these statuses alone. -/
theorem statusError_eq_targetReleased_iff {status : UInt8} :
    statusError status = .targetReleased ↔ Releases status := by
  have htable : ∀ e ∈ statusTable, e.2.2 = .targetReleased ↔ e.1 = 0x29 ∨ e.1 = 0x2B := by decide
  unfold statusError statusEntry Releases
  cases hfound : statusTable.find? fun e => e.1 == statusCode status with
  | some e =>
      have hcode : e.1 = statusCode status := by simpa using List.find?_some hfound
      rw [← hcode]
      exact htable e (List.mem_of_find?_eq_some hfound)
  | none =>
      refine iff_of_false nofun ?_
      rintro (h | h)
      · rw [h] at hfound
        exact absurd hfound (by decide)
      · rw [h] at hfound
        exact absurd hfound (by decide)

/-- A status is reported by one of two parts where it is reported by both together. -/
theorem released_append {crossed crossed' : List Crossing} :
    Released (crossed ++ crossed') ↔ Released crossed ∨ Released crossed' := by
  refine ⟨?_, ?_⟩
  · rintro ⟨status, ⟨code, params, hcode, hmem⟩, hgone⟩
    rcases List.mem_append.mp hmem with hmem | hmem
    · exact .inl ⟨status, ⟨code, params, hcode, hmem⟩, hgone⟩
    · exact .inr ⟨status, ⟨code, params, hcode, hmem⟩, hgone⟩
  · rintro (⟨status, ⟨code, params, hcode, hmem⟩, hgone⟩ | ⟨status, hheard, hgone⟩)
    · exact ⟨status, ⟨code, params, hcode, List.mem_append_left _ hmem⟩, hgone⟩
    · exact ⟨status, hheard.append_left crossed, hgone⟩

theorem not_released_nil : ¬ Released [] := by
  rintro ⟨_, ⟨_, _, _, hmem⟩, _⟩
  cases hmem

/-- A command reports nothing, only its reply may. -/
theorem not_released_command (cmd : Bytes) : ¬ Released [.command cmd] := by
  rintro ⟨_, ⟨_, _, _, hmem⟩, _⟩
  cases List.mem_singleton.mp hmem

/-- One reply crosses a link in an exchange. -/
theorem eq_of_mem_exchange {cmd : Bytes} {code code' : UInt8} {r r' : Except Error Bytes}
    (h : .reply code' r' ∈ [Crossing.command cmd, .reply code r]) : code' = code ∧ r' = r := by
  rcases List.mem_cons.mp h with h | h
  · cases h
  · exact Crossing.reply.inj (List.mem_singleton.mp h)

/-- The reply to a command reports that the target is gone. -/
def Releasing (code : UInt8) (r : Except Error Bytes) : Prop :=
  hasStatusByte code = true ∧ ∃ status params, r = .ok (status :: params) ∧ Releases status

/-- An exchange reports that the target is gone exactly if its reply does. -/
theorem released_exchange_iff {cmd : Bytes} {code : UInt8} {r : Except Error Bytes} :
    Released [.command cmd, .reply code r] ↔ Releasing code r := by
  refine ⟨?_, ?_⟩
  · rintro ⟨status, ⟨code', params, hcode, hmem⟩, hgone⟩
    obtain ⟨rfl, rfl⟩ := eq_of_mem_exchange hmem
    exact ⟨hcode, status, params, rfl, hgone⟩
  · rintro ⟨hcode, status, params, rfl, hgone⟩
    exact ⟨status, ⟨code, params, hcode, List.mem_cons_of_mem _ (List.mem_singleton_self _)⟩, hgone⟩

namespace Chip

variable {σ τ α β : Type} {c c₁ c' : Chip (Noted Crossing τ)}

/-- The target is forgotten if what crosses the link reports that it is gone, and otherwise stays
what it was. -/
def Heeds (c c' : Chip (Noted Crossing τ)) : Prop :=
  ∃ crossed, c'.crossings = c.crossings ++ crossed ∧ (Released crossed → c'.current? = none) ∧
    (¬ Released crossed → c'.current? = c.current?)

/-- Nothing crosses the link, and the target stays. -/
theorem heeds_of_eq (hcrossings : c'.crossings = c.crossings)
    (hcurrent : c'.current? = c.current?) : Heeds c c' :=
  ⟨[], hcrossings.trans (List.append_nil _).symm, fun h => absurd h not_released_nil,
    fun _ => hcurrent⟩

/-- Of two runs one behind the other, the later has the last word: a target that the first forgot is
not found again by heeding. -/
theorem Heeds.trans (h : Heeds c c₁) (h' : Heeds c₁ c') : Heeds c c' := by
  obtain ⟨before, hbefore, hgone, hstays⟩ := h
  obtain ⟨behind, hbehind, hgone', hstays'⟩ := h'
  refine ⟨before ++ behind, ?_, fun hreleased => ?_, fun hnot => ?_⟩
  · rw [hbehind, hbefore, List.append_assoc]
  · -- what is heard later decides, and what was forgotten before it stays forgotten
    by_cases hlate : Released behind
    · exact hgone' hlate
    · exact (hstays' hlate).trans (hgone ((released_append.mp hreleased).resolve_right hlate))
  · rw [released_append, not_or] at hnot
    exact (hstays' hnot.2).trans (hstays hnot.1)

instance : IsPreorder (Chip (Noted Crossing τ)) Heeds where
  refl _ := heeds_of_eq rfl rfl
  trans _ _ _ h h' := h.trans h'

/-- A target that was forgotten stays so. -/
theorem Heeds.none (h : Heeds c c') (hc : c.current? = none) : c'.current? = none := by
  obtain ⟨crossed, -, hgone, hstays⟩ := h
  by_cases hreleased : Released crossed
  · exact hgone hreleased
  · exact (hstays hreleased).trans hc

/-- Every run heeds what it hears of the target. -/
abbrev Heedful (τ : Type) (a : Op (Chip (Noted Crossing τ)) α) : Prop :=
  Act.Leads Heeds (fun _ => True) a

/-! ## Steps within the host -/

/-- A step of the host that touches neither the target nor the link. -/
theorem heedful_modify {f : Chip (Noted Crossing τ) → Chip (Noted Crossing τ)}
    (h : ∀ c, (f c).crossings = c.crossings ∧ (f c).current? = c.current?) : Heedful τ (modify f) :=
  Act.leads_modify fun c => heeds_of_eq (h c).1 (h c).2

theorem heedful_throw (e : Error) : Heedful τ (throw e : Op _ α) :=
  Act.leads_throw trivial

/-- A value that may be missing. -/
theorem heedful_ofOption (e : Error) (x? : Option α) : Heedful τ (Act.ofOption e x?) := by
  cases x? with
  | none => exact heedful_throw e
  | some x => exact Act.leads_pure x

theorem heedful_ofExcept (r : Except Error α) : Heedful τ (Act.ofExcept r) :=
  Act.leads_ofExcept fun _ _ => trivial

theorem heedful_require (p : Bool) (e : Error) : Heedful τ (Act.require p e) := by
  cases p with
  | false => exact heedful_throw e
  | true => exact Act.leads_pure ()

/-- A refusal with a word about it. -/
theorem heedful_refuse (level : Log.Level) (topic message : String) (e : Error) :
    Heedful τ (do Act.log level topic message; throw e : Op _ α) :=
  (Act.leads_log _ _ _).bind fun _ => heedful_throw e

/-- What is read off a description is of no account for the chip. -/
theorem heedful_readAll (data : Bytes) (a : Op Cursor α) : Heedful τ (Cursor.readAll data a) :=
  fun c => ⟨refl_of Heeds c, fun _ _ => trivial⟩

theorem heedful_decodeTarget (data : Bytes) (m : Modulation) : Heedful τ (decodeTarget data m) :=
  (heedful_readAll _ _).bind fun _ => Act.leads_pure _

theorem heedful_decodeDepTarget (data : Bytes) (mode : DepMode) (rate : BaudRate) :
    Heedful τ (decodeDepTarget data mode rate) :=
  (heedful_readAll _ _).bind fun _ => Act.leads_pure _

theorem heedful_ensureSupported (m : Modulation) : Heedful τ (ensureSupported m) := by
  unfold ensureSupported
  cases brty? m with
  | some brty => exact Act.leads_pure _
  | none => exact heedful_refuse _ _ _ _

theorem heedful_fit (capacity : Nat) (data : Bytes) : Heedful τ (fit capacity data) :=
  .ite ((Act.leads_log _ _ _).bind fun _ => (heedful_throw _).bind fun _ => Act.leads_pure _)
    (Act.leads_pure _)

theorem heedful_checkGeneralBytes (general : Bytes) : Heedful τ (checkGeneralBytes general) :=
  .ite (heedful_refuse _ _ _ _) (Act.leads_pure _)

/-- What a target is disguised as is read off its description, before anything is sent. -/
theorem heedful_disguise (t : Target) : Heedful τ (disguise t) := by
  unfold disguise
  cases t.info with
  | iso14443a a => exact Act.leads_pure _
  | felica f => exact Act.leads_pure _
  | dep d => exact (heedful_checkGeneralBytes _).bind fun _ => Act.leads_pure _
  | _ => exact heedful_throw _

/-! ## Exchanges -/

/-- Accepting a reply forgets the target exactly if the reply reports that it is gone. -/
theorem accept_current (code : UInt8) (reply : Bytes) (c : Chip τ) :
    (Releasing code (.ok reply) → (accept code reply c).state.current? = none) ∧
      (¬ Releasing code (.ok reply) → (accept code reply c).state.current? = c.current?) := by
  rw [accept, (Act.log_bind _ _ _ _ _).2]
  -- a reply without a status byte says nothing of the target
  by_cases hcode : hasStatusByte code = true
  · rw [if_pos hcode]
    cases reply with
    | nil =>
        refine ⟨?_, fun _ => rfl⟩
        rintro ⟨_, _, _, hreply, _⟩
        cases hreply
    | cons status params =>
        have hiff : Releasing code (.ok (status :: params)) ↔ Releases status := by
          refine ⟨?_, fun h => ⟨hcode, status, params, rfl, h⟩⟩
          rintro ⟨_, _, _, hreply, hgone⟩
          cases hreply
          exact hgone
        let taken (_ : Unit) : Op (Chip τ) Bytes := pure (status :: params)
        rw [hiff]
        by_cases hok : statusCode status = 0
        · have hkept := congrArg current? ((yields_checkStatus hok params c).bind taken).2
          refine ⟨fun hgone => ?_, fun _ => hkept⟩
          rw [Releases, hok] at hgone
          exact absurd hgone (by decide)
        · obtain ⟨c', hfails, -, hcurrent⟩ := fails_checkStatus hok params c
          have hstate := congrArg current? (hfails.bind taken).2
          rw [← statusError_eq_targetReleased_iff]
          rw [hcurrent] at hstate
          exact ⟨fun h => hstate.trans (if_pos h), fun h => hstate.trans (if_neg h)⟩
  · rw [if_neg hcode]
    exact ⟨fun h => absurd h.1 hcode, fun _ => rfl⟩

variable [ChipLink τ]

/-- **An exchange heeds its reply**, whatever the command is. -/
theorem heedful_transceive (cmd : Bytes) (t : Timeout) : Heedful τ (transceive cmd t) := by
  cases cmd with
  | nil => exact heedful_throw _
  | cons code params =>
      refine fun c => ⟨?_, fun _ _ => trivial⟩
      have hlink : (transceive (code :: params) t c).state.crossings =
          (carry code params t c.link).state.notes :=
        congrArg Noted.notes (link_transceive code params t c)
      have hstate : (transceive (code :: params) t c).state =
          ((onLink (carry code params t) >>= accept code) { c with lastStatus := 0 }).state := by
        rw [transceive_eq, (Act.modify_bind _ _ _).2, (Act.log_bind _ _ _ _ _).2]
      -- only a reply that came can tell that the target is gone
      rcases (carry code params t).yields_or_fails c.link with ⟨reply, h⟩ | ⟨e, h⟩
      · have hcarry : (onLink (carry code params t)).Yields { c with lastStatus := 0 } reply _ :=
          Act.yields_zoom.mpr ⟨_, h, rfl⟩
        obtain ⟨hgone, hstays⟩ := accept_current code reply
          { c with lastStatus := 0, link := (carry code params t c.link).state }
        rw [← (hcarry.bind _).2, ← hstate] at hgone hstays
        rcases notes_carry code params t c.link with ⟨⟨e, he⟩, -⟩ | hnotes
        · cases he.symm.trans h.1
        · rw [h.1] at hnotes
          refine ⟨_, hlink.trans hnotes, ?_⟩
          rw [released_exchange_iff]
          exact ⟨hgone, hstays⟩
      · have hcarry : (onLink (carry code params t)).Fails { c with lastStatus := 0 } e _ :=
          Act.fails_zoom.mpr ⟨_, h, rfl⟩
        have hstays := congrArg current? (hstate.trans (hcarry.bind _).2)
        rcases notes_carry code params t c.link with ⟨-, hnotes⟩ | hnotes
        · exact ⟨_, hlink.trans hnotes, fun h => absurd h (not_released_command _), fun _ => hstays⟩
        · rw [h.1] at hnotes
          refine ⟨_, hlink.trans hnotes, ?_, fun _ => hstays⟩
          rw [released_exchange_iff]
          rintro ⟨_, _, _, hreply, _⟩
          cases hreply

/-- An exchange for as long as usual. -/
theorem heedful_exchange (cmd : Bytes) : Heedful τ (exchange cmd) :=
  .get_bind fun _ => heedful_transceive cmd _

theorem heedful_command (cmd : Bytes) : Heedful τ (command cmd) :=
  (heedful_exchange cmd).bind fun _ => Act.leads_pure _

theorem heedful_writeRegister (r : UInt16) (value : UInt8) : Heedful τ (writeRegister r value) :=
  heedful_command _

theorem heedful_readRegister (r : UInt16) : Heedful τ (readRegister r) :=
  (heedful_exchange _).bind fun _ => heedful_ofOption _ _

theorem heedful_identify : Heedful τ identify := by
  refine (heedful_exchange _).bind fun reply => ?_
  cases identity? reply with
  | none => exact heedful_refuse _ _ _ _
  | some found => exact (Act.leads_log _ _ _).bind fun _ => heedful_modify fun _ => ⟨rfl, rfl⟩

/-! ## Steps of the link -/

/-- What crosses a link does not report that the target is gone. -/
def Harmless (n n' : Noted Crossing τ) : Prop :=
  ∃ crossed, n'.notes = n.notes ++ crossed ∧ ¬ Released crossed

instance : IsPreorder (Noted Crossing τ) Harmless where
  refl n := ⟨[], (List.append_nil _).symm, not_released_nil⟩
  trans := by
    rintro n n₁ n' ⟨before, hbefore, hnot⟩ ⟨behind, hbehind, hnot'⟩
    refine ⟨before ++ behind, ?_, fun h => (released_append.mp h).elim hnot hnot'⟩
    rw [hbehind, hbefore, List.append_assoc]

omit [ChipLink τ] in
/-- What is done on the link alone does not reach the target, so it may bring no status that reports
one gone. -/
theorem heedful_onLink {a : Op (Noted Crossing τ) α} (ha : Act.Leads Harmless (fun _ => True) a) :
    Heedful τ (onLink a) := by
  refine fun c => ⟨?_, fun _ _ => trivial⟩
  obtain ⟨crossed, hnotes, hnot⟩ := (ha c.link).1
  exact ⟨crossed, hnotes, fun h => absurd h hnot, fun _ => rfl⟩

/-- The echo brings no status byte. -/
theorem heedful_checkCommunication : Heedful τ (onLink Pn53x.checkCommunication) := by
  have hsend (cmd : Bytes) (t : Timeout) : Act.Leads Harmless (fun _ => True)
      (ChipLink.send cmd t : Op (Noted Crossing τ) Unit) :=
    fun n => ⟨⟨[.command cmd], rfl, not_released_command cmd⟩, fun _ _ => trivial⟩
  have hreceive (capacity : Nat) (t : Timeout) : Act.Leads Harmless (fun _ => True)
      (ChipLink.receive capacity diagnose t : Op (Noted Crossing τ) Bytes) := by
    refine fun n => ⟨?_, fun _ _ => trivial⟩
    have hnotes := congrArg Noted.notes (Noted.recording_run (.reply diagnose)
      (ChipLink.receive capacity diagnose t : Op τ Bytes) n).2
    refine ⟨_, hnotes, ?_⟩
    rintro ⟨status, ⟨code, params, hcode, hmem⟩, -⟩
    obtain ⟨rfl, -⟩ := Crossing.reply.inj (List.mem_singleton.mp hmem)
    exact absurd hcode (by decide)
  refine heedful_onLink ((hsend _ _).bind fun _ => (hreceive _ _).bind fun reply => ?_)
  exact .ite ((Act.leads_log _ _ _).bind fun _ => Act.leads_throw trivial) (Act.leads_pure _)

/-! ## Settings -/

theorem heedful_changeRegisters (f : ModeRegisters → ModeRegisters) :
    Heedful τ (changeRegisters f) :=
  .bind (heedful_modify fun _ => ⟨rfl, rfl⟩) fun _ => .get_bind fun _ => heedful_command _

theorem heedful_force (framing speed : UInt8) : Heedful τ (force framing speed) :=
  .get_bind fun _ => .ite (heedful_changeRegisters _) (Act.leads_pure _)

/-- No switch touches the target, whichever commands it sends. -/
theorem heedful_setBool (p : Property) (enable : Bool) : Heedful τ (setBool p enable) := by
  refine .get_bind fun c => ?_
  cases p with
  | handleCrc | acceptInvalidFrames | acceptMultipleFrames =>
      exact .ite (heedful_changeRegisters _) (Act.leads_pure _)
  | forceIso14443a | forceIso14443b | forceSpeed106 =>
      exact .ite (heedful_force _ _) (Act.leads_pure _)
  | handleParity =>
      refine .ite ((heedful_writeRegister _ _).bind fun _ => ?_) (Act.leads_pure _)
      exact heedful_modify fun _ => ⟨rfl, rfl⟩
  | easyFraming => exact heedful_modify fun _ => ⟨rfl, rfl⟩
  | activateField => exact heedful_command _
  | activateCrypto1 => exact heedful_writeRegister _ _
  | infiniteSelect =>
      exact (heedful_command _).bind fun _ => heedful_modify fun _ => ⟨rfl, rfl⟩
  | autoIso14443_4 =>
      refine .bind (heedful_modify fun _ => ⟨rfl, rfl⟩) fun _ => .get_bind fun _ => ?_
      exact heedful_command _
  | timeoutCommand | timeoutAtr | timeoutCom => exact heedful_throw _

/-- Nor does a number. -/
theorem heedful_setInt (p : Property) (value : Int) : Heedful τ (setInt p value) := by
  cases p with
  | timeoutCommand => exact heedful_modify fun _ => ⟨rfl, rfl⟩
  | timeoutAtr | timeoutCom =>
      exact .bind (heedful_modify fun _ => ⟨rfl, rfl⟩) fun _ => .get_bind fun _ => heedful_command _
  | _ => exact heedful_setBool _ _

/-! ## Exchanges with the target -/

/-- An initiator that is prepared keeps the target that it has. -/
theorem heedful_initiatorInit : Heedful τ initiatorInit :=
  (heedful_writeRegister _ _).bind fun _ => heedful_modify fun _ => ⟨rfl, rfl⟩

/-- An exchange with the target. -/
theorem heedful_transceiveBytes (tx : Bytes) (capacity : Nat) (t : Timeout) :
    Heedful τ (transceiveBytes tx capacity t) :=
  .get_bind fun _ => (heedful_transceive _ t).bind fun _ => heedful_fit _ _

/-- Every one of the exchanges is heeded, that which puts the framing back included. -/
theorem heedful_transceiveBits (tx : BitFrame) (capacity : Nat) :
    Heedful τ (transceiveBits tx capacity) := by
  refine .get_bind fun c => (heedful_require _ _).bind fun _ => ?_
  refine (heedful_require _ _).bind fun _ => (heedful_writeRegister _ _).bind fun _ => ?_
  refine (heedful_exchange _).attempt.bind fun exchanged => ?_
  refine .optionally (heedful_writeRegister _ _) ?_
  refine (heedful_ofExcept exchanged).bind fun reply => (heedful_fit _ _).bind fun data => ?_
  exact (heedful_readRegister _).bind fun _ => Act.leads_pure _

/-- A timed exchange reads the counter once its reply has been taken. -/
theorem heedful_transceiveBytesTimed (tx : Bytes) (capacity : Nat) :
    Heedful τ (transceiveBytesTimed tx capacity) := by
  refine .get_bind fun _ => (heedful_require _ _).bind fun _ => ?_
  refine (heedful_command _).bind fun _ => (heedful_exchange _).bind fun reply => ?_
  refine (heedful_fit _ _).bind fun data => (heedful_exchange _).bind fun counter => ?_
  exact (heedful_ofOption _ _).bind fun count => .get_bind fun _ => Act.leads_pure _

/-! ## The chip as target -/

omit [ChipLink τ] in
/-- What is done on the chip beside a description of a target. -/
theorem heedful_besideTarget {a : Op (Chip (Noted Crossing τ)) α} (ha : Heedful τ a) :
    Act.Leads (InvImage Heeds (Prod.snd : Target × Chip (Noted Crossing τ) → _)) (fun _ => True)
      (besideTarget a) :=
  fun s => ha s.2

/-- The chip as target: the description beside it may change, the current target does not. -/
theorem heedful_targetInit (capacity : Nat) (t : Timeout) :
    Act.Leads (InvImage Heeds (Prod.snd : Target × Chip (Noted Crossing τ) → _)) (fun _ => True)
      (targetInit capacity t) := by
  refine .get_bind fun (target, c) => ?_
  refine (heedful_besideTarget (heedful_disguise target)).bind fun d => ?_
  refine .bind (heedful_besideTarget (heedful_modify fun _ => ⟨rfl, rfl⟩)) fun _ => ?_
  refine (heedful_besideTarget (heedful_transceive _ t)).bind fun reply => ?_
  cases reply with
  | nil => exact Act.leads_throw trivial
  | cons activated first =>
      refine .bind (Act.leads_modify fun _ => heeds_of_eq rfl rfl) fun _ => ?_
      exact heedful_besideTarget (heedful_fit _ _)

theorem heedful_targetSendBytes (tx : Bytes) (t : Timeout) : Heedful τ (targetSendBytes tx t) :=
  (heedful_transceive _ t).bind fun _ => Act.leads_pure _

theorem heedful_targetReceiveBytes (capacity : Nat) (t : Timeout) :
    Heedful τ (targetReceiveBytes capacity t) :=
  (heedful_transceive _ t).bind fun _ => heedful_fit _ _

/-- Powering down is a command like the others, where the link supports it. -/
theorem heedful_powerDown : Heedful τ powerDown :=
  .get_bind fun _ => (heedful_require _ _).bind fun _ =>
    (heedful_command _).bind fun _ => heedful_modify fun _ => ⟨rfl, rfl⟩

/-! ## Answers about the target -/

/-- An answer may settle what the current target is.  A run with such an answer leaves that target,
and every other run heeds what it hears. -/
def Settled (verdict : α → Option (Option Target)) (c : Chip (Noted Crossing τ))
    (o : Outcome Error (Chip (Noted Crossing τ)) α) : Prop :=
  match o.result.toOption.bind verdict with
  | some t? => o.state.current? = t?
  | none => Heeds c o.state

/-- The answers of an action settle the current target. -/
def Settles (verdict : α → Option (Option Target)) (a : Op (Chip (Noted Crossing τ)) α) : Prop :=
  ∀ c, Settled verdict c (a c)

section Settles

variable {verdict : α → Option (Option Target)}

omit [ChipLink τ] in
/-- Where no answer settles the target, what is heard is all that counts. -/
theorem Settles.of_heedful {a : Op (Chip (Noted Crossing τ)) α} (ha : Heedful τ a)
    (hnone : ∀ c, (a c).result.toOption.bind verdict = none) : Settles verdict a := by
  intro c
  rw [Settled, hnone c]
  exact (ha c).1

omit [ChipLink τ] in
theorem Settles.get_bind {f : Chip (Noted Crossing τ) → Op (Chip (Noted Crossing τ)) α}
    (hf : ∀ c, Settles verdict (f c)) : Settles verdict (get >>= f) :=
  fun c => hf c c

omit [ChipLink τ] in
/-- What is heard on the way to an answer is heeded. -/
theorem Settles.behind {a : Op (Chip (Noted Crossing τ)) β}
    {f : β → Op (Chip (Noted Crossing τ)) α} (ha : Heedful τ a)
    (hf : ∀ x, Settles verdict (f x)) : Settles verdict (a >>= f) := by
  intro c
  rcases a.yields_or_fails c with ⟨x, h⟩ | ⟨e, h⟩
  · have hrest := hf x (a c).state
    rw [Settled] at hrest ⊢
    rw [(h.bind f).1, (h.bind f).2]
    split at hrest
    · exact hrest
    · exact (ha c).1.trans hrest
  · rw [Settled, (h.bind f).1, (h.bind f).2]
    exact (ha c).1

end Settles

/-! ### Looking for a target -/

/-- A target that is found is the current one from then on. -/
abbrev Finding (τ : Type) (a : Op (Chip (Noted Crossing τ)) (Option Target)) : Prop :=
  Settles (Option.map some) a

omit [ChipLink τ] in
/-- Nothing is found, and nothing is heard. -/
theorem finding_none : Finding τ (pure none) := .of_heedful (Act.leads_pure _) fun _ => rfl

omit [ChipLink τ] in
theorem finding_throw (e : Error) : Finding τ (throw e) :=
  .of_heedful (heedful_throw e) fun _ => rfl

omit [ChipLink τ] in
/-- The target that is remembered is the one that is answered. -/
theorem finding_remember (t : Target) : Finding τ (remember t) := fun _ => rfl

/-- A selection finds the target that its reply describes. -/
theorem finding_selectPassive (m : Modulation) (data : Bytes) :
    Finding τ (selectPassive m data) := by
  refine .behind (heedful_ensureSupported m) fun brty => .get_bind fun c => ?_
  refine .behind (heedful_transceive _ _) fun reply => ?_
  split
  · exact finding_none
  · exact finding_none
  · exact .behind (heedful_decodeTarget _ m) fun t => finding_remember t
  · exact finding_throw _

omit [ChipLink τ] in
/-- A poll by the chip finds the target that its reply describes, if it reports one alone. -/
theorem finding_readAutoPoll (reply : Bytes) : Finding τ (readAutoPoll reply) := by
  unfold readAutoPoll
  split
  · exact finding_none
  · exact finding_none
  · refine .behind (heedful_ofOption _ _) fun m => .behind (heedful_require _ _) fun _ => ?_
    split
    · exact finding_throw _
    · exact .behind (heedful_decodeTarget _ m) fun t => finding_remember t
  · exact finding_throw _

/-- A poll by the chip has one exchange, and none at all if its time is out of range. -/
theorem finding_autoPoll (ms : List Modulation) (pollNr period : UInt8) :
    Finding τ (autoPoll ms pollNr period) := by
  refine .behind (heedful_ofOption _ _) fun types => ?_
  split
  · exact .behind (heedful_transceive _ _) fun reply => finding_readAutoPoll reply
  · exact finding_none

/-- A selection for data exchange finds the target that its reply describes. -/
theorem finding_selectDep (mode : DepMode) (rate : BaudRate) (initiator : Option DepInfo)
    (t : Timeout) : Finding τ (selectDep mode rate initiator t) := by
  refine .behind (heedful_ofOption _ _) fun modeByte => ?_
  refine .behind (heedful_ofOption _ _) fun baudByte => ?_
  have hrest : Finding τ (do
      let polls := mode = .passive ∧ rate ≠ .kbps106
      let reply ← transceive (jumpForDep modeByte baudByte polls initiator) t
      remember (← decodeDepTarget (reply.drop 1) mode rate)) :=
    .behind (heedful_transceive _ _) fun reply =>
      .behind (heedful_decodeDepTarget _ mode rate) fun t => finding_remember t
  cases initiator with
  | none => exact hrest
  | some i => exact .behind (heedful_checkGeneralBytes _) fun _ => hrest

/-! ### Letting a target go -/

/-- A target that is let go is forgotten, whatever comes of the command. -/
theorem deselect_current (c : Chip (Noted Crossing τ)) : (deselect c).state.current? = none := by
  have hcommand : Heedful τ (command [inDeselect, 0x00]) := heedful_command _
  exact (hcommand { c with current? := none }).1.none rfl

/-- A chip that has become idle has forgotten its target. -/
theorem settles_idle : Settles (τ := τ) (fun _ => some none) idle := by
  refine .get_bind fun c => ?_
  have hend : Settles (fun _ => some none) (modify fun c : Chip (Noted Crossing τ) =>
      { c with current? := none, role := .idle } : Op _ Unit) := fun _ => rfl
  cases c.role with
  | initiator =>
      exact .behind (heedful_command _) fun _ => .behind (heedful_command _) fun _ => hend
  | target => exact .behind (heedful_command _) fun _ => hend
  | idle => exact hend

end Chip

end NearField.Pn53x
