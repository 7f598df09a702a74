import NearField.Proofs.Device.Alike
import NearField.Proofs.Reader.Call
import NearField.Proofs.Reader.Observed

/-!
# Calls of devices over readers that are alike

When the readers of two devices answer alike to whatever is asked of them, and their clocks show
the same, every call of the devices ends alike and leaves them alike (`simulates_call`).  A reader
that is observed is like the reader itself, so what is seen of a call is what happens without an
observer (`asUnobserved_call`).
-/

namespace NearField.Device

variable {σ τ α : Type} {R : σ → τ → Prop} [Reader σ] [Reader τ]

/-- Readers answer alike to every call, and show the same time. -/
structure CallAlike (R : σ → τ → Prop) : Prop where
  call {α : Type} (c : Reader.Call α) : Act.Simulates R c.run c.run
  clock {s : σ} {t : τ} (h : R s t) : Reader.clock s = Reader.clock t

/-- The calls of a listing are among those of the table. -/
theorem CallAlike.listAlike (h : CallAlike R) : ListAlike R where
  families mode := h.call (.families mode)
  baudRates mode f := h.call (.baudRates mode f)
  setBool p enable := h.call (.setBool p enable)
  selectPassive m data := h.call (.selectPassive m data)
  deselect := h.call .deselect

/-- Playing a target sets the switches of a target, and hands the rest to the reader. -/
theorem targetInit_run (target : Target) (capacity : Nat) (timeout : Timeout) (d : Device σ) :
    let handedOn : Op (Device σ) Bytes := setSwitches targetSwitches >>= fun _ =>
      dispatch (Reader.Call.targetInit target capacity timeout).run
    ((Call.targetInit target capacity timeout).run d).result = (handedOn d).result ∧
      ((Call.targetInit target capacity timeout).run d).state = (handedOn d).state := by
  intro handedOn
  change (targetInit capacity timeout (target, d)).result = _ ∧
    (targetInit capacity timeout (target, d)).state.2 = _
  unfold targetInit
  rcases (setSwitches targetSwitches).yields_or_fails d with ⟨x, h⟩ | ⟨e, h⟩
  · have hbeside : (besideTarget (setSwitches targetSwitches)).Yields (target, d) x
        (target, (setSwitches targetSwitches d).state) := ⟨h.1, rfl⟩
    rw [(hbeside.bind _).1, (hbeside.bind _).2, (h.bind _).1, (h.bind _).2, (dispatch_run _ _).1,
      (dispatch_run _ _).2, (Act.attempt_bind _ _ _).1, (Act.attempt_bind _ _ _).2,
      (Act.modify_bind _ _ _).1, (Act.modify_bind _ _ _).2, Act.ofExcept_apply]
    exact ⟨rfl, rfl⟩
  · have hbeside : (besideTarget (setSwitches targetSwitches)).Fails (target, d) e
        (target, (setSwitches targetSwitches d).state) := ⟨h.1, rfl⟩
    rw [(hbeside.bind _).1, (hbeside.bind _).2, (h.bind _).1, (h.bind _).2]
    exact ⟨rfl, rfl⟩

theorem simulates_setSwitches (h : ListAlike R) (switches : List (Property × Bool)) :
    Act.Simulates (Alike R) (setSwitches switches) (setSwitches switches) := by
  induction switches with
  | nil => exact Act.simulates_pure ()
  | cons s rest ih => exact (simulates_setBool h s.1 s.2).bind fun _ => ih

/-- The loops for a peer stop at the same answer, or when the same time is up. -/
theorem simulates_awaitPeer (h : CallAlike R) (mode : DepMode) (rate : BaudRate)
    (initiator : Option DepInfo) (attempts : Nat) (left : Option Nat) :
    Act.Simulates (Alike R) (awaitPeer mode rate initiator attempts left)
      (awaitPeer mode rate initiator attempts left) := by
  induction attempts generalizing left with
  | zero => exact Act.simulates_pure none
  | succ attempts ih =>
      refine .get_bind fun d d' hd => ?_
      rw [h.clock hd.1]
      refine (simulates_dispatch (h.call (.selectDep mode rate initiator peerPeriod))).attempt.bind
        fun r => ?_
      -- an attempt in vain took the same time from both, and leaves as much of the budget
      rcases r with e | _ | t
      · by_cases he : e = .timeout
        · subst he
          refine .get_bind fun d₁ d₁' hd₁ => ?_
          rw [h.clock hd₁.1]
          dsimp only
          rcases left.map (· - _) with _ | _ | us
          · exact ih none
          · exact Act.simulates_pure none
          · exact ih (some (us + 1))
        · cases e <;> first | exact Act.simulates_throw _ | exact absurd rfl he
      · refine .get_bind fun d₁ d₁' hd₁ => ?_
        rw [h.clock hd₁.1]
        dsimp only
        rcases left.map (· - _) with _ | _ | us
        · exact ih none
        · exact Act.simulates_pure none
        · exact ih (some (us + 1))
      · exact Act.simulates_pure (some t)

/-- A poll for a peer ends alike, with the switch put back on both sides. -/
theorem simulates_pollDep (h : CallAlike R) (mode : DepMode) (rate : BaudRate)
    (initiator : Option DepInfo) (timeout : Timeout) :
    Act.Simulates (Alike R) (pollDep mode rate initiator timeout)
      (pollDep mode rate initiator timeout) := by
  rw [pollDep_eq, pollDep_eq]
  refine .get_bind fun d d' hd => ?_
  refine (simulates_setBool h.listAlike _ true).bind fun _ => ?_
  refine (simulates_awaitPeer h mode rate initiator _ _).attempt.bind fun r => ?_
  rw [hd.infiniteSelect_eq]
  exact (simulates_switchBack h.listAlike _ false).bind fun _ => Act.simulates_ofExcept r

/-- **Calls end alike** over readers that are alike. -/
theorem simulates_call (h : CallAlike R) (c : Call α) :
    Act.Simulates (Alike R) c.run c.run := by
  -- most calls are handed to the reader; the others are put together from such as are
  cases c with
  | setBool p enable => exact simulates_setBool h.listAlike p enable
  | setInt p value =>
      exact (simulates_debug _).bind fun _ => simulates_dispatch (h.call (.setInt p value))
  | families mode => exact simulates_dispatch (h.call (.families mode))
  | baudRates mode f => exact simulates_dispatch (h.call (.baudRates mode f))
  | validate mode m => exact simulates_validate h.listAlike mode m
  | initiatorInit =>
      exact (simulates_setSwitches h.listAlike _).bind fun _ =>
        simulates_dispatch (h.call .initiatorInit)
  | secureElementInit => exact simulates_dispatch (h.call .secureElementInit)
  | selectPassive m data => exact simulates_selectPassive h.listAlike m data
  | listPassive m max => exact simulates_listPassive h.listAlike m max
  | pollTarget ms rounds period =>
      exact simulates_dispatch (h.call (.pollTarget ms rounds period))
  | selectDep mode rate initiator timeout =>
      exact simulates_dispatch (h.call (.selectDep mode rate initiator timeout))
  | pollDep mode rate initiator timeout => exact simulates_pollDep h mode rate initiator timeout
  | deselect => exact simulates_dispatch (h.call .deselect)
  | transceiveBytes tx capacity timeout =>
      exact simulates_dispatch (h.call (.transceiveBytes tx capacity timeout))
  | transceiveBits tx capacity => exact simulates_dispatch (h.call (.transceiveBits tx capacity))
  | transceiveBytesTimed tx capacity =>
      exact simulates_dispatch (h.call (.transceiveBytesTimed tx capacity))
  | transceiveBitsTimed tx capacity =>
      exact simulates_dispatch (h.call (.transceiveBitsTimed tx capacity))
  | targetIsPresent t => exact simulates_dispatch (h.call (.targetIsPresent t))
  | targetInit target capacity timeout =>
      intro d d' hd
      obtain ⟨hresult, hstate⟩ := targetInit_run target capacity timeout d
      obtain ⟨hresult', hstate'⟩ := targetInit_run target capacity timeout d'
      rw [hresult, hstate, hresult', hstate']
      exact ((simulates_setSwitches h.listAlike targetSwitches).bind fun _ =>
        simulates_dispatch (h.call (.targetInit target capacity timeout))) d d' hd
  | targetSendBytes tx timeout => exact simulates_dispatch (h.call (.targetSendBytes tx timeout))
  | targetReceiveBytes capacity timeout =>
      exact simulates_dispatch (h.call (.targetReceiveBytes capacity timeout))
  | targetSendBits tx => exact simulates_dispatch (h.call (.targetSendBits tx))
  | targetReceiveBits capacity => exact simulates_dispatch (h.call (.targetReceiveBits capacity))
  | information => exact simulates_dispatch (h.call .information)
  | abortCommand => exact simulates_dispatch (h.call .abortCommand)
  | idle => exact simulates_dispatch (h.call .idle)
  | powerDown => exact simulates_dispatch (h.call .powerDown)

/-! ## Calls that are observed -/

/-- A call ends as it does without an observer, and leaves the same device. -/
def AsUnobserved (c : Call α) (d : Device (Observed σ)) : Prop :=
  let plain := c.run (d.map Observed.reader)
  (c.run d).result = plain.result ∧ (c.run d).state.map Observed.reader = plain.state

/-- An observed reader answers as the reader does. -/
theorem callAlike_observed : CallAlike fun (o : Observed σ) (s : σ) => o.reader = s where
  call c := by
    cases c with
    | setBool p enable => exact Observed.simulates_noting _ _
    | selectPassive m data => exact Observed.simulates_noting _ _
    | deselect => exact Observed.simulates_noting _ _
    | targetInit target capacity timeout =>
        rintro o _ rfl
        exact ⟨rfl, rfl⟩
    | _ => exact Observed.simulates_passing _
  clock := by
    rintro o _ rfl
    rfl

/-- **Observing a call changes nothing.** -/
theorem asUnobserved_call (c : Call α) (d : Device (Observed σ)) : AsUnobserved c d := by
  have h := simulates_call callAlike_observed c d (d.map Observed.reader) (alike_iff_map_eq.mpr rfl)
  exact ⟨h.1, alike_iff_map_eq.mp h.2⟩

end NearField.Device
