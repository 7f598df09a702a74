import NearField.Proofs.Device.Bracket
import NearField.Proofs.Device.Call
import NearField.Proofs.Device.Search
import NearField.Proofs.Pn53x.Truthful
import NearField.Simulated.ChipScript

/-!
# The words of a chip for a failure

A device that holds a chip has the chip's words for a failed call, if the chip keeps a status that
reports a failure.  The chip keeps it until the next command goes out, and knows nothing of calls
in between that fail without one.  So the words are about the call exactly if something crossed the
link in it (`ownText_explains_iff`): then they stand for a status that was heard in the call, and
that is what the call failed with.  Otherwise they are left over from an earlier call.

Every call that hands an operation on is truthful as the operation is (`truthful_dispatch`).  The
two loops of a device are looked at where they fail: a listing fails with its first selection
(`Search.fails_of_listed`), and a wait with its last attempt.
-/

namespace NearField.Device

open Pn53x Pn53x.Chip Simulated

variable {σ τ α β : Type}

/-- The reader's own words for how the last call ended, if it has some. -/
def ownText? [Reader σ] (d : Device σ) : Option String :=
  d.lastError?.bind (Reader.describe? d.backend)

/-- The reader's own words come before the general ones. -/
theorem errorText_of_ownText? [Reader σ] {d : Device σ} {text : String}
    (h : d.ownText? = some text) : d.errorText = text := by
  obtain ⟨e, he, hwords⟩ := Option.bind_eq_some_iff.mp h
  rw [errorText, he]
  exact congrArg (Option.getD · _) hwords

/-- The chip that a device holds. -/
abbrev held (τ : Type) : Device (Chip (Noted Crossing τ)) → Chip (Noted Crossing τ) := backend

/-! ## Calls that are handed on -/

/-- An action whose end is put on record is as truthful as without the record. -/
theorem truthful_recorded {view : σ → Chip (Noted Crossing τ)} {a : Op σ α}
    {g : Except Error α → σ → σ} (ha : Truthful view a) (hg : ∀ r s, view (g r s) = view s) :
    Truthful view (do
      let r ← a.attempt
      modify (g r)
      Act.ofExcept r) := by
  intro s
  rw [(Act.attempt_bind _ _ _).1, (Act.attempt_bind _ _ _).2, (Act.modify_bind _ _ _).1,
    (Act.modify_bind _ _ _).2, Act.ofExcept_apply, hg]
  exact ha s

/-- What is handed to the chip is truthful where the chip is. -/
theorem truthful_dispatch {a : Op (Chip (Noted Crossing τ)) α} (ha : Truthful (itself τ) a) :
    Truthful (held τ) (dispatch a) :=
  truthful_recorded (ha.zoom (fun _ => rfl) fun _ _ => rfl) fun _ _ => rfl

theorem truthful_fail (e : Error) : Truthful (held τ) (fail e : Op _ α) :=
  truthful_dispatch (truthful_throw e)

theorem truthful_debug (message : String) : Truthful (held τ) (debug message) :=
  truthful_log _ _ _

variable [ChipLink τ]

/-- A switch is handed to the chip, and kept track of in silence. -/
theorem truthful_setBool (p : Property) (enable : Bool) :
    Truthful (held τ) (setBool p enable) := by
  refine (truthful_debug _).bind fun _ => ?_
  refine (truthful_dispatch (quiet_setBool p enable).truthful).bind fun _ => ?_
  exact .ite (truthful_modify fun _ => .refl _) (truthful_pure _)

theorem truthful_setInt (p : Property) (value : Int) : Truthful (held τ) (setInt p value) :=
  (truthful_debug _).bind fun _ => truthful_dispatch (quiet_setInt p value).truthful

theorem truthful_setSwitches (switches : List (Property × Bool)) :
    Truthful (held τ) (setSwitches switches) := by
  induction switches with
  | nil => exact truthful_pure _
  | cons s rest ih => exact (truthful_setBool s.1 s.2).bind fun _ => ih

theorem truthful_initiatorInit : Truthful (held τ) initiatorInit :=
  (truthful_setSwitches _).bind fun _ => truthful_dispatch quiet_initiatorInit.truthful

theorem truthful_families (mode : Mode) : Truthful (held τ) (families mode) :=
  truthful_dispatch (.get_bind fun _ => truthful_pure _)

theorem truthful_baudRates (mode : Mode) (f : Family) : Truthful (held τ) (baudRates mode f) :=
  truthful_dispatch (truthful_ofExcept _)

/-- A modulation is refused in silence, as its tables are the host's. -/
theorem truthful_validate (mode : Mode) (m : Modulation) :
    Truthful (held τ) (validate mode m) := by
  have hrates : Truthful (held τ) (do
      if !(← baudRates mode m.family).contains m.baudRate then
        debug ("Unsupported baud rate " ++ m.baudRate.text ++ " for " ++ m.family.text)
        fail .invalidArgument) := by
    refine (truthful_baudRates mode m.family).bind fun rates => .ite ?_ (truthful_pure _)
    exact (truthful_debug _).bind fun _ => truthful_fail _
  refine (truthful_families mode).bind fun fs => .ite ?_ hrates
  exact (truthful_debug _).bind fun _ => (truthful_fail _).bind fun _ => hrates

theorem truthful_selectPassive (m : Modulation) (data : Bytes) :
    Truthful (held τ) (selectPassive m data) :=
  (truthful_validate _ m).bind fun _ => truthful_dispatch (quiet_selectPassive m _).truthful

/-- The switches of a target come before its activation, and end it where they fail. -/
theorem truthful_targetInit (target : Target) (capacity : Nat) (t : Timeout) :
    Truthful (held τ) ((targetInit capacity t).zoom (fun d => (target, d)) fun s _ => s.2) := by
  have hplay : Truthful (fun s : Target × Device (Chip (Noted Crossing τ)) => s.2.backend)
      (targetInit capacity t) := by
    refine .bind ((truthful_setSwitches targetSwitches).zoom (fun _ => rfl) fun _ _ => rfl) ?_
    intro _
    refine truthful_recorded ?_ fun _ _ => rfl
    exact (Chip.truthful_targetInit capacity t).zoom (fun _ => rfl) fun _ _ => rfl
  exact hplay.zoom (fun _ => rfl) fun _ _ => rfl

/-! ## Calls that loop -/

/-- The switch that the loops are put into is never set without a command. -/
theorem sweeps_switch (enable : Bool) : Sweeps (held τ) (setBool .infiniteSelect enable) := by
  have hset : Sweeps (held τ) (dispatch (Reader.setBool .infiniteSelect enable)) := by
    intro d
    rw [(dispatch_run _ d).2]
    exact sweeps_setBool_infiniteSelect enable d.backend
  have hremember : Quiet (held τ) (modify fun d => { d with infiniteSelect := enable }) :=
    Act.leads_modify fun _ => .inl (.refl _)
  exact fun d => (hset.bind fun _ => hremember) d

variable {d d₁ d' : Device (Chip (Noted Crossing τ))} {e : Error}

/-- Setting the switch back behind a loop leaves no failure, and leaving it keeps the loop's. -/
theorem accounts_switchBack {otherwise enable : Bool} {r : Except Error α}
    (hgrows : Grows d.backend d₁.backend)
    (hloop : ∀ e, r = .error e → Accounts d.backend r d₁.backend)
    (h : (switchBack otherwise enable >>= fun _ => Act.ofExcept r).Fails d₁ e d') :
    Accounts d.backend (.error e : Except Error α) d'.backend := by
  cases otherwise with
  | true =>
      have hsweep : Clears d₁.backend d'.backend := by
        rw [← h.2]
        exact ((sweeps_switch enable).bind fun _ =>
          Act.leads_ofExcept (R := InvImage Calm (held τ)) fun _ _ => trivial) d₁
      exact (hsweep.after hgrows).accounts _
  | false =>
      obtain ⟨he, rfl⟩ := h
      rw [switchBack, if_neg Bool.false_ne_true, pure_bind, Act.ofExcept_apply] at he ⊢
      exact he ▸ hloop e he

theorem truthful_deselect : Truthful (held τ) deselect := truthful_dispatch Chip.truthful_deselect

theorem truthful_selectDep (mode : DepMode) (rate : BaudRate) (initiator : Option DepInfo)
    (t : Timeout) : Truthful (held τ) (selectDep mode rate initiator t) :=
  truthful_dispatch (Chip.truthful_selectDep mode rate initiator t)

/-- A listing that fails does so at its first selection. -/
theorem Search.fails_of_listed {m : Modulation} {n : Nat} {r : List Target × Option Error}
    (h : Search m n [] d r d') (hr : listed r = .error e) : (selectPassive m []).Fails d e d' := by
  obtain ⟨hnone, hfailure⟩ := listed_eq_error.mp hr
  cases h with
  | failed h => exact Option.some.inj hfailure ▸ h
  | more _ _ _ _ rest => exact absurd (hnone ▸ rest.prefix_found) (by simp)
  | _ => cases hfailure

/-- A listing that fails accounts for it, whether a switch fails or its first selection. -/
theorem accounts_listPassive {m : Modulation} {max : Nat} (h : (listPassive m max).Fails d e d') :
    Accounts d.backend (.error e : Except Error (List Target)) d'.backend := by
  by_cases hmax : max = 0
  · subst hmax
    exact absurd h Act.not_fails_pure
  · rw [listPassive_eq hmax] at h
    rcases Act.fails_bind.mp h with hno | ⟨_, _, hcleared, h⟩
    · exact absurd hno Act.not_fails_modify
    obtain rfl := Act.yields_modify.mp hcleared
    rcases Act.fails_bind.mp h with hno | ⟨_, _, hget, h⟩
    · exact absurd hno Act.not_fails_get
    obtain ⟨rfl, rfl⟩ := Act.yields_get.mp hget
    have hoff : Clears d.backend (setBool .infiniteSelect false d.cleared).state.backend :=
      sweeps_switch false d.cleared
    -- it fails at the first switch, or behind the loop
    rcases Act.fails_bind.mp h with off | ⟨_, d₁, off, h⟩
    · exact (off.2 ▸ hoff).accounts _
    obtain ⟨r, d₂, search, hsearch⟩ := search_collect m max [] d₁
    rcases Act.fails_bind.mp h with hno | ⟨r', d₂', search', h⟩
    · exact absurd hno search.not_fails
    obtain ⟨rfl, rfl⟩ := search.unique search'
    rw [off.2] at hoff
    have hgrows := hsearch.leads (R := InvImage Grows (held τ)) (truthful_selectPassive m []).grows
      truthful_deselect.grows
    refine accounts_switchBack (hoff.grows.trans hgrows) (fun e he => ?_) h
    have hfirst := (truthful_selectPassive m []).of_fails (hsearch.fails_of_listed he)
    exact he ▸ (hoff.followed hfirst).of_error

/-- A wait whose attempts account for their failures accounts for its own. -/
theorem Wait.accounts {mode : DepMode} {rate : BaudRate} {initiator : Option DepInfo} {n : Nat}
    {left : Option Nat} {r : Except Error (Option Target)}
    (h : Wait mode rate initiator n left d r d')
    (hselect : Tells (held τ) (selectDep mode rate initiator peerPeriod)) (hr : r = .error e) :
    Accounts d.backend r d'.backend := by
  induction h with
  | failed h _ => exact h.1 ▸ h.2 ▸ hselect _
  | again h _ _ ih =>
      -- an attempt in vain may keep a status, and the next one has the chip forget it
      refine (ih hr).after ?_
      rcases h with h | h
      · exact h.2 ▸ (hselect _).grows
      · exact h.2 ▸ (hselect _).grows
  | _ => cases hr

/-- A wait that fails does so at its last attempt, and no attempt before it has left a status: each
of them crosses the link, or none does. -/
theorem Wait.of_failed {mode : DepMode} {rate : BaudRate} {initiator : Option DepInfo} {n : Nat}
    {left : Option Nat} {r : Except Error (Option Target)}
    (h : Wait mode rate initiator n left d r d') (hr : r = .error e) :
    Silent d.backend d'.backend ∨ Accounts d.backend r d'.backend := by
  rcases selectDep_silent_or_tells (τ := τ) mode rate initiator peerPeriod with hselect | hselect
  · refine .inl (h.leads (R := InvImage Silent (held τ)) fun d => ?_)
    rw [InvImage, selectDep, (dispatch_run _ d).2]
    exact hselect d.backend
  · refine .inr (h.accounts (fun d => ?_) hr)
    rw [selectDep, (dispatch_run _ d).1, (dispatch_run _ d).2]
    exact hselect d.backend

/-- A poll for a peer that fails accounts for it, also where it fails behind its last switch. -/
theorem accounts_pollDep {mode : DepMode} {rate : BaudRate} {initiator : Option DepInfo}
    {t : Timeout} (h : (pollDep mode rate initiator t).Fails d e d') :
    Accounts d.backend (.error e : Except Error (Option Target)) d'.backend := by
  rw [pollDep_eq] at h
  rcases Act.fails_bind.mp h with hno | ⟨_, _, hget, h⟩
  · exact absurd hno Act.not_fails_get
  obtain ⟨rfl, rfl⟩ := Act.yields_get.mp hget
  have hon : Clears d.backend (setBool .infiniteSelect true d).state.backend :=
    sweeps_switch true d
  rcases Act.fails_bind.mp h with on | ⟨_, d₁, on, h⟩
  · exact (on.2 ▸ hon).accounts _
  rcases Act.fails_bind.mp h with hno | ⟨r, d₂, hwait, h⟩
  · cases hno.1
  obtain ⟨rfl, rfl⟩ := Act.yields_attempt.mp hwait
  rw [on.2] at hon
  have hwait := wait_awaitPeer mode rate initiator endlessAttempts (peerBudget? t) d₁
  have hgrows := hwait.leads (R := InvImage Grows (held τ)) (truthful_selectDep _ _ _ _).grows
  refine accounts_switchBack (hon.grows.trans hgrows) (fun e he => ?_) h
  exact hon.followed (hwait.of_failed he)

/-! ## Failed calls -/

/-- **A failed call** either left the link and the chip's status alone, or what the chip keeps of
it was heard in it, and is what it failed with. -/
theorem silent_or_accounts (call : Call α) (h : call.run.Fails d e d') :
    Silent d.backend d'.backend ∨ Accounts d.backend (.error e : Except Error α) d'.backend := by
  -- the calls that loop have lemmas of their own, as they go on behind failures
  cases call with
  | setBool p enable => exact (truthful_setBool p enable).of_fails h
  | setInt p value => exact (truthful_setInt p value).of_fails h
  | families mode => exact (truthful_families mode).of_fails h
  | baudRates mode f => exact (truthful_baudRates mode f).of_fails h
  | validate mode m => exact (truthful_validate mode m).of_fails h
  | initiatorInit => exact truthful_initiatorInit.of_fails h
  | selectPassive m data => exact (truthful_selectPassive m data).of_fails h
  | listPassive m max => exact .inr (accounts_listPassive h)
  | pollTarget ms rounds period =>
      exact (truthful_dispatch (quiet_pollTarget ms rounds period).truthful).of_fails h
  | selectDep mode rate initiator t =>
      exact (truthful_selectDep mode rate initiator t).of_fails h
  | pollDep mode rate initiator t => exact .inr (accounts_pollDep h)
  | deselect => exact truthful_deselect.of_fails h
  | transceiveBytes tx capacity t =>
      exact (truthful_dispatch (truthful_transceiveBytes tx capacity t)).of_fails h
  | transceiveBits tx capacity =>
      exact (truthful_dispatch (truthful_transceiveBits tx capacity)).of_fails h
  | transceiveBytesTimed tx capacity =>
      exact (truthful_dispatch (truthful_transceiveBytesTimed tx capacity)).of_fails h
  | targetIsPresent t => exact (truthful_dispatch (truthful_targetIsPresent t)).of_fails h
  | targetInit target capacity t => exact (truthful_targetInit target capacity t).of_fails h
  | targetSendBytes tx t => exact (truthful_dispatch (truthful_targetSendBytes tx t)).of_fails h
  | targetReceiveBytes capacity t =>
      exact (truthful_dispatch (truthful_targetReceiveBytes capacity t)).of_fails h
  | information => exact (truthful_dispatch (.get_bind fun _ => truthful_pure _)).of_fails h
  | abortCommand => exact .inl (h.2 ▸ (dispatch_run _ d).2 ▸ ⟨rfl, rfl⟩)
  | idle => exact (truthful_dispatch truthful_idle).of_fails h
  | powerDown => exact (truthful_dispatch truthful_powerDown).of_fails h
  | secureElementInit | transceiveBitsTimed | targetSendBits | targetReceiveBits =>
      exact (truthful_dispatch (truthful_throw _)).of_fails h

/-- A text is that of a failing status that was heard, and that stands for the failure. -/
def Explains (crossed : List Crossing) (text : String) (e : Error) : Prop :=
  ∃ status, Heard crossed status ∧ statusCode status ≠ 0 ∧ statusText status = text ∧
    statusError status = e

omit [ChipLink τ] in
/-- Nothing is explained where nothing crossed. -/
theorem not_explains_nil {text : String} {e : Error} : ¬ Explains [] text e := by
  rintro ⟨status, ⟨code, params, -, hmem⟩, -⟩
  cases hmem

omit [ChipLink τ] in
/-- The words of a chip are those of the status that it keeps. -/
theorem describe?_eq_some {c : Chip τ} {text : String} :
    c.describe? = some text ↔ statusCode c.lastStatus ≠ 0 ∧ statusText c.lastStatus = text := by
  rw [describe?]
  by_cases h : statusCode c.lastStatus = 0
  · simp [h]
  · simp [h]

/-- A device has no text of its own but that of its chip. -/
theorem describe?_of_ownText? {text : String} (h : d.ownText? = some text) :
    d.backend.describe? = some text := by
  obtain ⟨e, -, hwords⟩ := Option.bind_eq_some_iff.mp h
  exact hwords

/-- **A chip's words for a failed call are about the call exactly if something crossed the link in
it**, after any calls and over any link.  Then they are those of a failing status that was heard in
the call, and that is what it failed with.  If nothing crossed they are left over: the chip had
them before the call. -/
theorem ownText_explains_iff (calls : List (Sigma Call)) (call : Call α)
    (d₀ : Device (Chip (Noted Crossing τ))) {e : Error} {text : String} :
    let d := after calls d₀
    let o := call.run d
    o.result = .error e → o.state.ownText? = some text → o.state.errorText = text ∧
      ∃ crossed, o.state.backend.crossings = d.backend.crossings ++ crossed ∧
        (Explains crossed text e ↔ crossed ≠ []) ∧
          (crossed = [] → d.backend.describe? = some text) := by
  intro d o hresult htext
  have hwords := describe?_of_ownText? htext
  refine ⟨errorText_of_ownText? htext, ?_⟩
  rcases silent_or_accounts call ⟨hresult, rfl⟩ with hsilent | ⟨crossed, hcrosses, hfailure⟩
  · refine ⟨[], hsilent.crossings.trans (List.append_nil _).symm, ?_, fun _ => ?_⟩
    · exact iff_of_false not_explains_nil fun hne => hne rfl
    · rw [describe?_eq_some] at hwords ⊢
      exact hsilent.status ▸ hwords
  · obtain ⟨hstatus, hsame⟩ := describe?_eq_some.mp hwords
    obtain ⟨hheard, herror⟩ := hfailure hstatus
    refine ⟨crossed, hcrosses.2, iff_of_true ?_ hcrosses.1, fun hnil => absurd hnil hcrosses.1⟩
    exact ⟨_, hheard, hstatus, hsame, (Except.error.inj herror).symm⟩

/-- A chip over a link with these replies, held by a device. -/
def scripted (replies : List ChipReply) : Device (Chip (Noted Crossing ChipScript)) :=
  plain { link := ⟨{ replies := replies }, []⟩ }

/-- A tag that refuses to be authenticated is spoken of in the words for it. -/
theorem ownText_explains_mifare :
    let d := scripted [.payload [0x14]]
    let o := (Call.transceiveBytes [0x30] 16 .default).run d
    o.result = .error .mifareAuthFailed ∧
      o.state.ownText? = some "Mifare Authentication Error" ∧
      ∃ crossed, o.state.backend.crossings = d.backend.crossings ++ crossed ∧
        (Explains crossed "Mifare Authentication Error" .mifareAuthFailed ↔ crossed ≠ []) := by
  intro d o
  have hresult : o.result = .error .mifareAuthFailed := rfl
  have htext : o.state.ownText? = some "Mifare Authentication Error" := by
    decide +kernel
  obtain ⟨-, crossed, hcrossed, hiff, -⟩ :=
    ownText_explains_iff [] (.transceiveBytes [0x30] 16 .default) d hresult htext
  exact ⟨hresult, htext, crossed, hcrossed, hiff⟩

/-- If the caller then asks for a target that was never selected, that is refused without a
command, and in the words of the tag before. -/
theorem ownText_leftover :
    let d := after [⟨_, .transceiveBytes [0x30] 16 .default⟩] (scripted [.payload [0x14]])
    let o := (Call.targetIsPresent none).run d
    o.result = .error .invalidArgument ∧
      o.state.ownText? = some "Mifare Authentication Error" ∧
      o.state.errorText ≠ Error.messageForCode Error.invalidArgument.code ∧
      ¬ ∃ crossed, o.state.backend.crossings = d.backend.crossings ++ crossed ∧
        Explains crossed "Mifare Authentication Error" .invalidArgument := by
  intro d o
  refine ⟨rfl, by decide +kernel, by decide +kernel, ?_⟩
  rintro ⟨crossed, hcrossed, hexplains⟩
  have hsame : o.state.backend.crossings = d.backend.crossings := rfl
  obtain rfl := List.append_right_eq_self.mp (hcrossed.symm.trans hsame)
  exact not_explains_nil hexplains

end NearField.Device
