import NearField.Proofs.Device.Bracket
import NearField.Proofs.Device.Call
import NearField.Proofs.Device.Search
import NearField.Simulated.ScriptedReader

/-!
# What a device remembers of a call

A device remembers how the last call of its reader ended.  A call that is handed on to the
reader as it is reports its own outcome that way (`reports_dispatch`), and so does one that
stops at its first failure.  The three calls that loop do so only in part: a listing that is
asked for no target leaves what an earlier call left, and the switch that a loop sets back, or
does not have to set back, speaks last.  `Misreports` are those cases, and
`lastError_eq_failure_iff` says that there are no others.
-/

namespace NearField.Device
open Simulated

variable {σ α β : Type} {d d' : Device σ} {e : Error}

/-- An operation leaves its outcome as what the device remembers. -/
def Reports (a : Op (Device σ) α) (d : Device σ) : Prop :=
  (a d).state.lastError? = failure? (a d).result

/-! ## Rules -/

theorem Reports.of_yields {a : Op (Device σ) α} {x : α} (h : Reports a d) (ha : a.Yields d x d') :
    d'.lastError? = none := by
  obtain ⟨hx, rfl⟩ := ha
  rw [h, hx, failure?]

theorem Reports.of_fails {a : Op (Device σ) α} (h : Reports a d) (ha : a.Fails d e d') :
    d'.lastError? = some e := by
  obtain ⟨he, rfl⟩ := ha
  rw [h, he, failure?]

theorem reports_pure {x : α} : Reports (pure x : Op (Device σ) α) d ↔ d.lastError? = none := Iff.rfl

theorem reports_ofExcept {r : Except Error α} :
    Reports (Act.ofExcept r) d ↔ d.lastError? = failure? r := by
  rw [Reports, Act.ofExcept_apply]

/-- After a success the rest of an operation reports. -/
theorem reports_bind_of_yields {a : Op (Device σ) α} {f : α → Op (Device σ) β} {x : α}
    (h : a.Yields d x d') : Reports (a >>= f) d ↔ Reports (f x) d' := by
  rw [Reports, (h.bind f).1, (h.bind f).2, Reports]

/-- At a failure an operation has to leave it on record. -/
theorem reports_bind_of_fails {a : Op (Device σ) α} {f : α → Op (Device σ) β}
    (h : a.Fails d e d') : Reports (a >>= f) d ↔ d'.lastError? = some e := by
  rw [Reports, (h.bind f).1, (h.bind f).2, failure?]

/-- What stops at its first failure reports if that failure does, and the rest. -/
theorem Reports.bind {a : Op (Device σ) α} {f : α → Op (Device σ) β}
    (ha : ∀ e d', a.Fails d e d' → d'.lastError? = some e)
    (hf : ∀ x d', a.Yields d x d' → Reports (f x) d') : Reports (a >>= f) d := by
  rcases a.yields_or_fails d with ⟨x, h⟩ | ⟨e, h⟩
  · exact (reports_bind_of_yields h).mpr (hf x _ h)
  · exact (reports_bind_of_fails h).mpr (ha e _ h)

theorem reports_dispatch (a : Op σ α) (d : Device σ) : Reports (dispatch a) d := by
  rw [Reports, (dispatch_run a d).1, (dispatch_run a d).2]

theorem reports_fail (e : Error) (d : Device σ) : Reports (fail e : Op (Device σ) α) d :=
  reports_dispatch _ d

/-- A record of the log does not count as a call. -/
theorem reports_debug_bind {message : String} {f : Unit → Op (Device σ) α}
    (h : ∀ d, Reports (f ()) d) (d : Device σ) : Reports (debug message >>= f) d :=
  (reports_bind_of_yields (Act.yields_log.mpr rfl)).mpr (h d)

/-! ## Calls that stop at their first failure -/

variable [Reader σ]

theorem reports_setInt (p : Property) (value : Int) (d : Device σ) : Reports (setInt p value) d :=
  reports_debug_bind (reports_dispatch _) d

theorem reports_setBool (p : Property) (enable : Bool) (d : Device σ) :
    Reports (setBool p enable) d := by
  rcases (setBool p enable).yields_or_fails d with ⟨x, h⟩ | ⟨e, h⟩
  · obtain ⟨b, -, hd⟩ := yields_setBool.mp h
    rw [Reports, h.1, ← hd, failure?]
  · obtain ⟨b, -, hd⟩ := fails_setBool.mp h
    rw [Reports, h.1, ← hd, failure?]

/-- Setting switches fails as the switch does that can not be set. -/
theorem lastError_of_setSwitches {switches : List (Property × Bool)} {d d' : Device σ}
    (h : (setSwitches switches).Fails d e d') : d'.lastError? = some e := by
  induction switches generalizing d with
  | nil => exact absurd h Act.not_fails_pure
  | cons s rest ih =>
      rcases Act.fails_bind.mp h with h | ⟨_, d₁, -, h⟩
      · exact (reports_setBool _ _ _).of_fails h
      · exact ih h

theorem reports_initiatorInit (d : Device σ) : Reports initiatorInit d :=
  Reports.bind (fun _ _ h => lastError_of_setSwitches h) fun _ _ _ => reports_dispatch _ _

theorem reports_validate (mode : Mode) (m : Modulation) (d : Device σ) :
    Reports (validate mode m) d := by
  refine Reports.bind (fun e d' h => (reports_dispatch _ _).of_fails h) fun fs d₁ _ => ?_
  by_cases hf : (!fs.contains m.family) = true
  · rw [if_pos hf]
    refine reports_debug_bind (fun d => Reports.bind ?_ fun _ _ h => ?_) d₁
    · exact fun e d' h => (reports_fail _ _).of_fails h
    · exact absurd h.1 (by simp [fail, dispatch, Act.bind_apply, Act.ofExcept, Act.throw])
  · rw [if_neg hf]
    refine Reports.bind (fun e d' h => (reports_dispatch _ _).of_fails h) fun rs d₂ h => ?_
    by_cases hr : (!rs.contains m.baudRate) = true
    · rw [if_pos hr]
      exact reports_debug_bind (reports_fail _) d₂
    · rw [if_neg hr]
      exact (reports_dispatch _ _).of_yields h

theorem reports_selectPassive (m : Modulation) (data : Bytes) (d : Device σ) :
    Reports (selectPassive m data) d :=
  Reports.bind (fun _ _ h => (reports_validate _ _ _).of_fails h) fun _ _ _ => reports_dispatch _ _

/-- Playing a target changes the target beside the device, and reports on the device. -/
theorem reports_targetInit (target : Target) (capacity : Nat) (t : Timeout) (d : Device σ) :
    Reports ((targetInit capacity t).zoom (fun d => (target, d)) fun s _ => s.2) d := by
  rw [Reports, Act.zoom_apply, targetInit]
  rcases (besideTarget (setSwitches targetSwitches)).yields_or_fails (target, d) with
    ⟨x, h⟩ | ⟨e, h⟩
  · rw [(h.bind _).1, (h.bind _).2, (Act.attempt_bind _ _ _).1, (Act.attempt_bind _ _ _).2,
      (Act.modify_bind _ _ _).1, (Act.modify_bind _ _ _).2, Act.ofExcept_apply]
  · rw [(h.bind _).1, (h.bind _).2]
    exact lastError_of_setSwitches ⟨h.1, rfl⟩

/-! ## Calls that loop -/

/-- A search that may select leaves on record how it ended. -/
theorem Search.lastError_eq {m : Modulation} {n : Nat} {found : List Target} {d d' : Device σ}
    {r : List Target × Option Error} (h : Search m n found d r d') (hn : n ≠ 0) :
    d'.lastError? = r.2 := by
  induction h with
  | full => exact absurd rfl hn
  | failed h => exact (reports_selectPassive _ _ _).of_fails h
  | silent h => exact (reports_selectPassive _ _ _).of_yields h
  | again h _ => exact (reports_selectPassive _ _ _).of_yields h
  | last h _ _ => exact (reports_selectPassive _ _ _).of_yields h
  | more _ _ hroom _ _ ih => exact ih hroom

/-- Waiting leaves on record how it ended, except that a last attempt in vain may have run out
of time. -/
theorem Wait.lastError {mode : DepMode} {rate : BaudRate} {initiator : Option DepInfo} {n : Nat}
    {left : Option Nat} {d d' : Device σ} {r : Except Error (Option Target)}
    (h : Wait mode rate initiator n left d r d')
    (hd : n ≠ 0 ∨ d.lastError? = none ∨ d.lastError? = some .timeout) :
    d'.lastError? = failure? r ∨ r = .ok none ∧ d'.lastError? = some .timeout := by
  have missed : ∀ {d d₁ : Device σ}, Missed mode rate initiator d d₁ →
      d₁.lastError? = none ∨ d₁.lastError? = some .timeout := by
    rintro d d₁ (h | h)
    · exact .inl ((reports_dispatch _ _).of_yields h)
    · exact .inr ((reports_dispatch _ _).of_fails h)
  -- `cut` is reached only behind attempts in vain: those leave what `hd` asks for
  induction h with
  | cut =>
      rcases hd with hn | hd | hd
      · exact absurd rfl hn
      · exact .inl hd
      · exact .inr ⟨rfl, hd⟩
  | met h => exact .inl ((reports_dispatch _ _).of_yields h)
  | failed h _ => exact .inl ((reports_dispatch _ _).of_fails h)
  | spent h _ => exact (missed h).imp id fun h => ⟨rfl, h⟩
  | again h _ _ ih => exact ih (.inr (missed h))

/-- The listings of which a device remembers another outcome than they had. -/
inductive ListMisreports (m : Modulation) (max : Nat) (d : Device σ) : Prop where
  /-- No target is asked for, and an earlier call failed. -/
  | stale {e : Error} (hmax : max = 0) (h : d.lastError? = some e)
  /-- The first selection fails, and then unbounded selection is set back. -/
  | covered {d₁ d₂ d₃ : Device σ} {e : Error} (hmax : max ≠ 0)
      (off : (setBool .infiniteSelect false).Yields d.cleared () d₁)
      (search : (collect m max []).Yields d₁ ([], some e) d₂)
      (unbounded : d.infiniteSelect = true)
      (on : (setBool .infiniteSelect true).Yields d₂ () d₃)
  /-- A later selection fails, and there is nothing to set back. -/
  | exposed {d₁ d₂ : Device σ} {found : List Target} {e : Error} (hmax : max ≠ 0)
      (off : (setBool .infiniteSelect false).Yields d.cleared () d₁)
      (search : (collect m max []).Yields d₁ (found, some e) d₂) (hfound : found ≠ [])
      (bounded : d.infiniteSelect = false)

/-- The waits for a peer of which a device remembers another outcome than they had. -/
inductive PollMisreports (mode : DepMode) (rate : BaudRate) (initiator : Option DepInfo)
    (t : Timeout) (d : Device σ) : Prop where
  /-- An attempt fails, and then unbounded selection is set back. -/
  | covered {d₁ d₂ d₃ : Device σ} {e : Error}
      (on : (setBool .infiniteSelect true).Yields d () d₁)
      (wait : (awaitPeer mode rate initiator endlessAttempts (peerBudget? t)).Fails d₁ e d₂)
      (bounded : d.infiniteSelect = false)
      (off : (setBool .infiniteSelect false).Yields d₂ () d₃)
  /-- The last attempt runs out of time, and there is nothing to set back. -/
  | exposed {d₁ d₂ : Device σ} (on : (setBool .infiniteSelect true).Yields d () d₁)
      (wait : (awaitPeer mode rate initiator endlessAttempts (peerBudget? t)).Yields d₁ none d₂)
      (unbounded : d.infiniteSelect = true) (h : d₂.lastError? = some .timeout)

/-- The calls of which a device remembers another outcome than they had. -/
def Misreports (d : Device σ) : Call α → Prop
  | .listPassive m max => ListMisreports m max d
  | .pollDep mode rate initiator t => PollMisreports mode rate initiator t d
  | _ => False

/-- The end that both loops have reports, unless setting the switch back covers a failure, or
there is nothing to set back and the record is another one. -/
theorem reports_switchBack_bind {otherwise enable : Bool} {r : Except Error α} {d : Device σ} :
    Reports (switchBack otherwise enable >>= fun _ => Act.ofExcept r) d ↔
      (otherwise = true → ∀ d', (setBool .infiniteSelect enable).Yields d () d' →
        failure? r = none) ∧ (otherwise = false → d.lastError? = failure? r) := by
  cases otherwise with
  | false =>
      rw [switchBack, if_neg Bool.false_ne_true,
        reports_bind_of_yields (Act.yields_pure.mpr ⟨rfl, rfl⟩), reports_ofExcept]
      simp
  | true =>
      rw [switchBack, if_pos rfl]
      have hset := reports_setBool .infiniteSelect enable d
      rcases (setBool .infiniteSelect enable).yields_or_fails d with ⟨⟨⟩, h⟩ | ⟨e, h⟩
      · rw [reports_bind_of_yields h, reports_ofExcept, hset.of_yields h]
        exact ⟨fun hr => ⟨fun _ _ _ => hr.symm, nofun⟩, fun hr => (hr.1 rfl _ h).symm⟩
      · rw [reports_bind_of_fails h]
        exact ⟨fun _ => ⟨fun _ d' h' => absurd h h'.not_fails, nofun⟩, fun _ => hset.of_fails h⟩

theorem failure?_listed (found : List Target) (failure : Option Error) :
    failure? (listed (found, failure)) = if found = [] then failure else none := by
  cases found <;> cases failure <;> rfl

/-- A listing misreports by what its search ended in. -/
theorem listMisreports_iff {m : Modulation} {max : Nat} {d d₁ d₂ : Device σ}
    {found : List Target} {failure : Option Error} (hmax : max ≠ 0)
    (off : (setBool .infiniteSelect false).Yields d.cleared () d₁)
    (search : (collect m max []).Yields d₁ (found, failure) d₂) :
    ListMisreports m max d ↔ ∃ e, failure = some e ∧
      (found = [] ∧ d.infiniteSelect = true ∧
          (∃ d₃, (setBool .infiniteSelect true).Yields d₂ () d₃) ∨
        found ≠ [] ∧ d.infiniteSelect = false) := by
  refine ⟨?_, ?_⟩
  · rintro (⟨h, -⟩ | ⟨-, off', search', unbounded, on⟩ | ⟨-, off', search', hfound, bounded⟩)
    · exact absurd h hmax
    · obtain ⟨-, rfl⟩ := off.unique off'
      obtain ⟨hr, rfl⟩ := search.unique search'
      cases hr
      exact ⟨_, rfl, .inl ⟨rfl, unbounded, _, on⟩⟩
    · obtain ⟨-, rfl⟩ := off.unique off'
      obtain ⟨hr, rfl⟩ := search.unique search'
      cases hr
      exact ⟨_, rfl, .inr ⟨hfound, bounded⟩⟩
  · rintro ⟨e, rfl, ⟨rfl, unbounded, d₃, on⟩ | ⟨hfound, bounded⟩⟩
    · exact .covered hmax off search unbounded on
    · exact .exposed hmax off search hfound bounded

theorem reports_listPassive_iff (m : Modulation) (max : Nat) (d : Device σ) :
    Reports (listPassive m max) d ↔ ¬ ListMisreports m max d := by
  by_cases hmax : max = 0
  · subst hmax
    rw [listPassive_zero, reports_pure]
    refine ⟨?_, fun hno => ?_⟩
    · rintro hnone (⟨-, h⟩ | ⟨hmax, -, -, -, -⟩ | ⟨hmax, -, -, -, -⟩)
      · rw [hnone] at h
        cases h
      · exact hmax rfl
      · exact hmax rfl
    · cases h : d.lastError? with
      | none => rfl
      | some e => exact absurd (.stale rfl h) hno
  · -- the switch, the search, and the switch back, where the search decides
    rw [listPassive_eq hmax, reports_bind_of_yields ((Act.yields_modify (x := ⟨⟩)).mpr rfl),
      reports_bind_of_yields (Act.yields_get.mpr ⟨rfl, rfl⟩)]
    rcases (setBool .infiniteSelect false).yields_or_fails d.cleared with ⟨⟨⟩, off⟩ | ⟨e, off⟩
    · obtain ⟨⟨found, failure⟩, d₂, search, hsearch⟩ := search_collect m max []
        (setBool .infiniteSelect false d.cleared).state
      have hrecord := hsearch.lastError_eq hmax
      rw [reports_bind_of_yields off, reports_bind_of_yields search, reports_switchBack_bind,
        listMisreports_iff hmax off search, failure?_listed, hrecord,
        cleared_infiniteSelect]
      cases failure with
      | none => simp
      | some e =>
          by_cases hfound : found = []
          · cases d.infiniteSelect <;> simp [hfound]
          · cases d.infiniteSelect <;> simp [hfound]
    · rw [reports_bind_of_fails off]
      refine ⟨?_, ?_⟩
      · rintro - (⟨h, -⟩ | ⟨-, off', -, -, -⟩ | ⟨-, off', -, -, -⟩)
        · exact absurd h hmax
        · exact off'.not_fails off
        · exact off'.not_fails off
      · exact fun _ => (reports_setBool _ _ _).of_fails off

/-- A wait misreports by what its attempts ended in. -/
theorem pollMisreports_iff {mode : DepMode} {rate : BaudRate} {initiator : Option DepInfo}
    {t : Timeout} {d d₁ d₂ : Device σ} {r : Except Error (Option Target)}
    (on : (setBool .infiniteSelect true).Yields d () d₁)
    (hr : (awaitPeer mode rate initiator endlessAttempts (peerBudget? t) d₁).result = r)
    (hd : (awaitPeer mode rate initiator endlessAttempts (peerBudget? t) d₁).state = d₂) :
    PollMisreports mode rate initiator t d ↔
      ((∃ e, r = .error e) ∧ d.infiniteSelect = false ∧
          ∃ d₃, (setBool .infiniteSelect false).Yields d₂ () d₃) ∨
        (r = .ok none ∧ d.infiniteSelect = true ∧ d₂.lastError? = some .timeout) := by
  subst hr hd
  refine ⟨?_, ?_⟩
  · rintro (⟨on', wait, bounded, off⟩ | ⟨on', wait, unbounded, h⟩)
    · obtain ⟨-, rfl⟩ := on.unique on'
      obtain ⟨he, rfl⟩ := wait
      exact .inl ⟨⟨_, he⟩, bounded, _, off⟩
    · obtain ⟨-, rfl⟩ := on.unique on'
      obtain ⟨hr, rfl⟩ := wait
      exact .inr ⟨hr, unbounded, h⟩
  · rintro (⟨⟨e, he⟩, bounded, d₃, off⟩ | ⟨hr, unbounded, h⟩)
    · exact .covered on ⟨he, rfl⟩ bounded off
    · exact .exposed on ⟨hr, rfl⟩ unbounded h

theorem reports_pollDep_iff (mode : DepMode) (rate : BaudRate) (initiator : Option DepInfo)
    (t : Timeout) (d : Device σ) :
    Reports (pollDep mode rate initiator t) d ↔ ¬ PollMisreports mode rate initiator t d := by
  rw [pollDep_eq, reports_bind_of_yields (Act.yields_get.mpr ⟨rfl, rfl⟩)]
  rcases (setBool .infiniteSelect true).yields_or_fails d with ⟨⟨⟩, on⟩ | ⟨e, on⟩
  · obtain ⟨d₁, hd₁⟩ : ∃ d₁, (setBool .infiniteSelect true d).state = d₁ := ⟨_, rfl⟩
    obtain ⟨r, hr⟩ : ∃ r, (awaitPeer mode rate initiator endlessAttempts (peerBudget? t) d₁).result
      = r := ⟨_, rfl⟩
    obtain ⟨d₂, hd₂⟩ : ∃ d₂, (awaitPeer mode rate initiator endlessAttempts (peerBudget? t)
      d₁).state = d₂ := ⟨_, rfl⟩
    have hwait := wait_awaitPeer mode rate initiator endlessAttempts (peerBudget? t) d₁
    rw [hr, hd₂] at hwait
    rw [hd₁] at on
    rw [reports_bind_of_yields on, reports_bind_of_yields (Act.yields_attempt.mpr ⟨hr, hd₂⟩),
      reports_switchBack_bind, pollMisreports_iff on hr hd₂]
    -- without a switch back the wait itself has left the last error
    cases d.infiniteSelect with
    | false => cases r <;> simp [failure?]
    | true =>
        rcases hwait.lastError (.inl (by simp [endlessAttempts])) with h | ⟨rfl, h⟩
        · cases r <;> simp [h, failure?]
        · simp [h, failure?]
  · rw [reports_bind_of_fails on]
    refine ⟨?_, ?_⟩
    · rintro - (⟨on', -, -, -⟩ | ⟨on', -, -, -⟩)
      · exact on'.not_fails on
      · exact on'.not_fails on
    · exact fun _ => (reports_setBool _ _ _).of_fails on

/-- **A device remembers how a call ended**, after any calls and whatever its reader does, except
in the cases of `Misreports`. -/
theorem lastError_eq_failure_iff (calls : List (Sigma Call)) (c : Call α) (d₀ : Device σ) :
    let d := after calls d₀
    let o := c.run d
    o.state.lastError? = failure? o.result ↔ ¬ Misreports d c := by
  intro d o
  change Reports c.run d ↔ ¬ Misreports d c
  -- two calls can misreport, and the others leave their own outcome
  cases c with
  | listPassive m max => exact reports_listPassive_iff m max d
  | pollDep mode rate initiator t => exact reports_pollDep_iff mode rate initiator t d
  | setBool p enable => exact iff_of_true (reports_setBool p enable d) id
  | setInt p value => exact iff_of_true (reports_setInt p value d) id
  | validate mode m => exact iff_of_true (reports_validate mode m d) id
  | initiatorInit => exact iff_of_true (reports_initiatorInit d) id
  | selectPassive m data => exact iff_of_true (reports_selectPassive m data d) id
  | targetInit target capacity t => exact iff_of_true (reports_targetInit target capacity t d) id
  | _ => exact iff_of_true (reports_dispatch _ d) id

/-- There are such cases: a listing that asks for nothing after a failed call, one whose only
selection fails while selection is unbounded, and a wait in vain while it is. -/
theorem lastError_ne_failure :
    let m : Modulation := ⟨.iso14443a, .kbps106⟩
    let failed := after [⟨_, .idle⟩] (plain ({} : ScriptedReader))
    let unbounded (r : ScriptedReader) := after [⟨_, .setBool .infiniteSelect true⟩] (plain r)
    let stale := (Call.listPassive m 0).run failed
    let covered := (Call.listPassive m 4).run
      (unbounded { selectResults := [.error .rfTransmission] })
    let exposed := (Call.pollDep .passive .kbps106 none .default).run (unbounded {})
    (stale.result = .ok [] ∧ stale.state.lastError? = some .deviceNotSupported) ∧
      (covered.result = .error .rfTransmission ∧ covered.state.lastError? = none) ∧
      (exposed.result = .ok none ∧ exposed.state.lastError? = some .timeout) := by
  exact ⟨⟨rfl, rfl⟩, ⟨rfl, rfl⟩, rfl, rfl⟩

end NearField.Device
