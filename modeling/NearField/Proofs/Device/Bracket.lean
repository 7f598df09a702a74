import NearField.Device.Selection
import NearField.Proofs.Act

/-!
# Loops inside a switch

Listing targets and waiting for a peer have one shape.  Unbounded selection is switched, a loop
runs that is not cut by a failure, unbounded selection is switched back if it stood otherwise,
and the operation ends with what the loop found.  `listPassive_eq` and `pollDep_eq` state that, and
`listPassive_bracketed` and `pollDep_bracketed` that both are a loop in one and the same bracket.
-/

namespace NearField.Device

variable {σ : Type} [Reader σ]

/-- Sets unbounded selection back, if it stood otherwise. -/
def switchBack (otherwise enable : Bool) : Op (Device σ) Unit :=
  if otherwise then setBool .infiniteSelect enable else pure ()

/-- The device with no failure to remember. -/
def cleared {δ : Type} (d : Device δ) : Device δ := { d with lastError? := none }

@[simp] theorem cleared_infiniteSelect {δ : Type} (d : Device δ) :
    d.cleared.infiniteSelect = d.infiniteSelect := rfl

/-- What a search amounts to: its failure counts if nothing was found. -/
def listed : List Target × Option Error → Except Error (List Target)
  | ([], some e) => .error e
  | (found, _) => .ok found

/-- A search ends in its failure only with nothing found. -/
theorem listed_eq_error {r : List Target × Option Error} {e : Error} :
    listed r = .error e ↔ r.1 = [] ∧ r.2 = some e := by
  obtain ⟨_ | ⟨t, found⟩, _ | e'⟩ := r <;> simp [listed]

/-- A search that is a success gives what was found. -/
theorem listed_eq_ok {r : List Target × Option Error} {found : List Target}
    (h : listed r = .ok found) : r.1 = found := by
  unfold listed at h
  split at h
  · cases h
  · exact Except.ok.inj h

/-- The microseconds in which a peer is waited for. -/
def peerBudget? : Timeout → Option Nat
  | .default => some 0
  | .infinite => none
  | .millis ms => some (ms.toNat * 1000)

/-- A listing for no targets does nothing at all. -/
theorem listPassive_zero (m : Modulation) :
    (listPassive m 0 : Op (Device σ) (List Target)) = pure [] := rfl

/-- A listing is a loop between setting the switch and setting it back, and its failure counts if
nothing was found. -/
theorem listPassive_eq {m : Modulation} {max : Nat} (hmax : max ≠ 0) :
    (listPassive m max : Op (Device σ) (List Target)) = (do
      modify cleared
      let d ← get
      setBool .infiniteSelect false
      let r ← collect m max []
      switchBack d.infiniteSelect true
      Act.ofExcept (listed r)) := by
  unfold listPassive
  rw [if_neg hmax]
  refine bind_congr fun _ => bind_congr fun d => bind_congr fun _ => bind_congr fun r => ?_
  obtain ⟨found, failure⟩ := r
  cases d.infiniteSelect <;> cases failure <;> cases found <;> rfl

/-- Waiting for a peer is a loop between setting the switch and setting it back, and ends as the
loop did. -/
theorem pollDep_eq (mode : DepMode) (rate : BaudRate) (initiator : Option DepInfo) (t : Timeout) :
    (pollDep mode rate initiator t : Op (Device σ) (Option Target)) = (do
      let d ← get
      setBool .infiniteSelect true
      let r ← (awaitPeer mode rate initiator endlessAttempts (peerBudget? t)).attempt
      switchBack (!d.infiniteSelect) false
      Act.ofExcept r) := by
  unfold pollDep
  refine bind_congr fun d => bind_congr fun _ => ?_
  cases t <;> refine bind_congr fun r => ?_ <;> cases d.infiniteSelect <;> rfl

/-- Runs a loop while unbounded selection is switched one way, and ends with what the loop
amounts to. -/
def bracketed {α β : Type} (enable : Bool) (loop : Op (Device σ) α)
    (amounts : α → Except Error β) : Op (Device σ) β := do
  let d ← get
  setBool .infiniteSelect enable
  let r ← loop
  switchBack (d.infiniteSelect != enable) (!enable)
  Act.ofExcept (amounts r)

/-- A listing brackets its loop by selection that is bounded. -/
theorem listPassive_bracketed {m : Modulation} {max : Nat} (hmax : max ≠ 0) :
    (listPassive m max : Op (Device σ) (List Target)) = (do
      modify cleared
      bracketed false (collect m max []) listed) := by
  rw [listPassive_eq hmax]
  unfold bracketed
  simp only [Bool.bne_false, Bool.not_false]

/-- Waiting for a peer brackets its loop by selection that is unbounded. -/
theorem pollDep_bracketed (mode : DepMode) (rate : BaudRate) (initiator : Option DepInfo)
    (t : Timeout) :
    (pollDep mode rate initiator t : Op (Device σ) (Option Target)) =
      bracketed true
        (awaitPeer mode rate initiator endlessAttempts (peerBudget? t)).attempt id := by
  rw [pollDep_eq]
  unfold bracketed
  simp only [Bool.bne_true, Bool.not_true, id]

end NearField.Device
