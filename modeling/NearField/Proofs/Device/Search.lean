import NearField.Device.Selection
import NearField.Proofs.Act

/-!
# How searches run

The rounds of the two loops of a device, as big-step relations: `Search` has one constructor
for every way in which a round of listing targets ends, and `Wait` one for every way in which
an attempt to meet a peer does.  Both loops always end as their relation says
(`search_collect`, `wait_awaitPeer`), so what holds of all their runs is shown by induction on
`Search` and `Wait`.
-/

namespace NearField.Device

variable {σ : Type} [Reader σ]

/-- Listing goes on with room for `n` targets beside `found`: it ends with the targets that
were found, and with the failure that ended it, if one did. -/
inductive Search (m : Modulation) :
    Nat → List Target → Device σ → List Target × Option Error → Device σ → Prop where
  | full {found : List Target} {d : Device σ} : Search m 0 found d (found, none) d
  | failed {n : Nat} {found : List Target} {d d' : Device σ} {e : Error}
      (h : (selectPassive m []).Fails d e d') : Search m (n + 1) found d (found, some e) d'
  | silent {n : Nat} {found : List Target} {d d' : Device σ}
      (h : (selectPassive m []).Yields d none d') : Search m (n + 1) found d (found, none) d'
  | again {n : Nat} {found : List Target} {d d' : Device σ} {t : Target}
      (h : (selectPassive m []).Yields d (some t) d') (ht : t ∈ found) :
      Search m (n + 1) found d (found, none) d'
  | last {n : Nat} {found : List Target} {d d' : Device σ} {t : Target}
      (h : (selectPassive m []).Yields d (some t) d') (ht : t ∉ found)
      (hlast : n = 0 ∨ m.family.singleAttempt = true) :
      Search m (n + 1) found d (found ++ [t], none) d'
  | more {n : Nat} {found : List Target} {d d₁ d' : Device σ} {t : Target}
      {r : List Target × Option Error}
      (h : (selectPassive m []).Yields d (some t) d₁) (ht : t ∉ found)
      (hn : n ≠ 0) (hs : m.family.singleAttempt = false)
      (rest : Search m n (found ++ [t]) (deselect d₁).state r d') : Search m (n + 1) found d r d'

/-- Whatever came of letting a target go, listing goes on. -/
theorem collect_after_deselect {m : Modulation} {n : Nat} {found : List Target} {d d' : Device σ}
    {r : List Target × Option Error} (h : (collect m n found).Yields (deselect d).state r d') :
    (do
      if let .error e ← (deselect.attempt : Op (Device σ) _) then
        debug ("Deselect failed while listing targets: " ++ e.text)
      collect m n found).Yields d r d' := by
  rcases deselect.yields_or_fails d with ⟨u, hu⟩ | ⟨e, he⟩
  · exact Act.yields_bind.mpr ⟨.ok u, _, Act.yields_attempt.mpr hu, h⟩
  · exact Act.yields_bind.mpr ⟨.error e, _, Act.yields_attempt.mpr he,
      Act.yields_bind.mpr ⟨(), _, Act.yields_log.mpr rfl, h⟩⟩

/-- What selecting and letting go lead along, a listing leads along. -/
theorem Search.leads {R : Device σ → Device σ → Prop} [IsPreorder (Device σ) R] {m : Modulation}
    {n : Nat} {found : List Target} {d d' : Device σ} {r : List Target × Option Error}
    (h : Search m n found d r d') (hselect : ∀ d, R d (selectPassive m [] d).state)
    (hdeselect : ∀ d, R d (deselect d).state) : R d d' := by
  induction h with
  | full => exact refl_of R _
  | failed h => exact h.2 ▸ hselect _
  | silent h => exact h.2 ▸ hselect _
  | again h _ => exact h.2 ▸ hselect _
  | last h _ _ => exact h.2 ▸ hselect _
  | more h _ _ _ _ ih => exact trans_of R (trans_of R (h.2 ▸ hselect _) (hdeselect _)) ih

theorem Search.prefix_found {m : Modulation} {n : Nat} {found : List Target} {d d' : Device σ}
    {r : List Target × Option Error} (h : Search m n found d r d') : found <+: r.1 := by
  induction h with
  | last => exact List.prefix_append _ _
  | more _ _ _ _ _ ih => exact (List.prefix_append _ _).trans ih
  | _ => exact List.prefix_rfl

theorem search_collect (m : Modulation) (n : Nat) (found : List Target) (d : Device σ) :
    ∃ r d', (collect m n found).Yields d r d' ∧ Search m n found d r d' := by
  -- on the room that is left; the cases are the tests of a round, in their order
  induction n generalizing found d with
  | zero => exact ⟨_, _, Act.yields_pure.mpr ⟨rfl, rfl⟩, .full⟩
  | succ n ih =>
      rcases (selectPassive m []).yields_or_fails d with ⟨none | t, h⟩ | ⟨e, h⟩
      · exact ⟨_, _, Act.yields_bind.mpr ⟨_, _, Act.yields_attempt.mpr h,
          Act.yields_pure.mpr ⟨rfl, rfl⟩⟩, .silent h⟩
      · by_cases ht : t ∈ found
        · refine ⟨_, _, Act.yields_bind.mpr ⟨_, _, Act.yields_attempt.mpr h, ?_⟩, .again h ht⟩
          exact Act.yields_ite.mpr (.inl ⟨List.contains_iff_mem.mpr ht,
            Act.yields_pure.mpr ⟨rfl, rfl⟩⟩)
        · have hno : ¬ found.contains t = true := fun hc => ht (List.contains_iff_mem.mp hc)
          by_cases hlast : n = 0 ∨ m.family.singleAttempt = true
          · refine ⟨_, _, Act.yields_bind.mpr ⟨_, _, Act.yields_attempt.mpr h, ?_⟩,
              .last h ht hlast⟩
            exact Act.yields_ite.mpr (.inr ⟨hno, Act.yields_ite.mpr
              (.inl ⟨by simpa using hlast, Act.yields_pure.mpr ⟨rfl, rfl⟩⟩)⟩)
          · obtain ⟨hn, hs⟩ := not_or.mp hlast
            obtain ⟨r, d', hr, hsearch⟩ := ih (found ++ [t]) (deselect _).state
            refine ⟨r, d', Act.yields_bind.mpr ⟨_, _, Act.yields_attempt.mpr h, ?_⟩,
              .more h ht hn (Bool.not_eq_true _ ▸ hs) hsearch⟩
            exact Act.yields_ite.mpr (.inr ⟨hno, Act.yields_ite.mpr
              (.inr ⟨by simpa using hlast, collect_after_deselect hr⟩)⟩)
      · exact ⟨_, _, Act.yields_bind.mpr ⟨_, _, Act.yields_attempt.mpr h,
          Act.yields_pure.mpr ⟨rfl, rfl⟩⟩, .failed h⟩

section Wait

variable (mode : DepMode) (rate : BaudRate) (initiator : Option DepInfo)

/-- An attempt to meet a peer is in vain: it ends in silence or runs out of time. -/
def Missed (d d' : Device σ) : Prop :=
  (selectDep mode rate initiator peerPeriod).Yields d none d' ∨
    (selectDep mode rate initiator peerPeriod).Fails d .timeout d'

/-- What is left of a budget of time after an attempt. -/
def remaining (left : Option Nat) (d d' : Device σ) : Option Nat :=
  left.map (· - Nat.max 1 (Reader.clock d'.backend - Reader.clock d.backend))

/-- Waiting goes on for `n` attempts at most: it ends with the peer that was met, in vain, or
with a failure. -/
inductive Wait :
    Nat → Option Nat → Device σ → Except Error (Option Target) → Device σ → Prop where
  | cut {left : Option Nat} {d : Device σ} : Wait 0 left d (.ok none) d
  | met {n : Nat} {left : Option Nat} {d d' : Device σ} {t : Target}
      (h : (selectDep mode rate initiator peerPeriod).Yields d (some t) d') :
      Wait (n + 1) left d (.ok (some t)) d'
  | failed {n : Nat} {left : Option Nat} {d d' : Device σ} {e : Error}
      (h : (selectDep mode rate initiator peerPeriod).Fails d e d') (he : e ≠ .timeout) :
      Wait (n + 1) left d (.error e) d'
  | spent {n : Nat} {left : Option Nat} {d d' : Device σ}
      (h : Missed mode rate initiator d d') (hleft : remaining left d d' = some 0) :
      Wait (n + 1) left d (.ok none) d'
  | again {n : Nat} {left : Option Nat} {d d₁ d' : Device σ} {r : Except Error (Option Target)}
      (h : Missed mode rate initiator d d₁) (hleft : remaining left d d₁ ≠ some 0)
      (rest : Wait n (remaining left d d₁) d₁ r d') : Wait (n + 1) left d r d'

variable {mode rate initiator}

/-- What an attempt leads along, a wait leads along. -/
theorem Wait.leads {R : Device σ → Device σ → Prop} [IsPreorder (Device σ) R] {n : Nat}
    {left : Option Nat} {d d' : Device σ} {r : Except Error (Option Target)}
    (h : Wait mode rate initiator n left d r d')
    (hselect : ∀ d, R d (selectDep mode rate initiator peerPeriod d).state) : R d d' := by
  have hmissed {d d' : Device σ} (h : Missed mode rate initiator d d') : R d d' := by
    rcases h with h | h
    · exact h.2 ▸ hselect d
    · exact h.2 ▸ hselect d
  induction h with
  | cut => exact refl_of R _
  | met h => exact h.2 ▸ hselect _
  | failed h _ => exact h.2 ▸ hselect _
  | spent h _ => exact hmissed h
  | again h _ _ ih => exact trans_of R (hmissed h) ih

/-- After an attempt in vain waiting is over, or goes on with what is left of the budget. -/
theorem wait_goOn {n : Nat} {left left' : Option Nat} {d d₁ : Device σ} :
    let rest : Op (Device σ) (Option Target) :=
      match left' with
      | some 0 => return none
      | left => awaitPeer mode rate initiator n left
    Missed mode rate initiator d d₁ → remaining left d d₁ = left' →
      Wait mode rate initiator n left' d₁ (awaitPeer mode rate initiator n left' d₁).result
        (awaitPeer mode rate initiator n left' d₁).state →
      Wait mode rate initiator (n + 1) left d (rest d₁).result (rest d₁).state := by
  intro rest h hleft ih
  rcases left' with _ | _ | us
  · exact .again h (by simp [hleft]) (hleft ▸ ih)
  · exact .spent h hleft
  · exact .again h (by simp [hleft]) (hleft ▸ ih)

variable (mode rate initiator)

theorem wait_awaitPeer (n : Nat) (left : Option Nat) (d : Device σ) :
    Wait mode rate initiator n left d (awaitPeer mode rate initiator n left d).result
      (awaitPeer mode rate initiator n left d).state := by
  induction n generalizing left d with
  | zero => exact .cut
  | succ n ih =>
      rw [awaitPeer, (Act.get_bind _ _).1, (Act.get_bind _ _).2, (Act.attempt_bind _ _ _).1,
        (Act.attempt_bind _ _ _).2]
      rcases (selectDep mode rate initiator peerPeriod).yields_or_fails d with
        ⟨none | t, h⟩ | ⟨e, h⟩
      · rw [h.1]
        exact wait_goOn (.inl h) rfl (ih _ _)
      · rw [h.1]
        exact .met h
      · rw [h.1]
        -- running out of time is an attempt in vain, any other failure ends the wait
        by_cases he : e = .timeout
        · subst he
          exact wait_goOn (.inr h) rfl (ih _ _)
        · cases e <;> first | exact absurd rfl he | exact .failed h he

end Wait

end NearField.Device
