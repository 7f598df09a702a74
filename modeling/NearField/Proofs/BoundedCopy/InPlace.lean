import NearField.Proofs.BoundedCopy

/-!
# Copies in place

`copy` gives the target as a copy leaves it.  In `copyInto` the target is the state: behind the same
checks the bytes are written one after the other, and a byte that one of the two buffers does not
have stops the program halfway.  It never does.  `copyInto` ends as `copy` says and leaves what
`copy` says, or else the target as it was (`copyInto_run`).  So a copy takes place whole or not at
all (`allOrNothing`).
-/

namespace NearField.BoundedCopy

variable {source target : Bytes} {count i n : Nat}

/-- A program on the target of a copy.  It fails with the reason for which a copy is refused, or
without one at an access that is out of range. -/
abbrev InPlace : Type := Act (Option Fault) Bytes Unit

/-- Writes one byte of the source to its place. -/
def writeByte (source : Bytes) (i : Nat) : InPlace := do
  let b ← Act.ofOption none source[i]?
  Act.require (i < (← get).length) none
  modify fun target => target.set i b

/-- Writes `n` bytes of the source to their places, from place `i` on. -/
def writeBytes (source : Bytes) (i : Nat) : Nat → InPlace
  | 0 => pure ()
  | n + 1 => do
    writeByte source i
    writeBytes source (i + 1) n

/-- Copies the first `count` bytes of `source` over the front of the target. -/
def copyInto (source : Bytes) (count : Nat) : InPlace := do
  let target ← get
  if count = 0 then return
  else if maxSize < count ∨ maxSize < target.length then throw (some .range)
  else if target.length < count then throw (some (.overflow target.length count))
  else if source.length < count then throw (some .invalid)
  else writeBytes source 0 count

/-! ## Bytes that are written -/

/-- The target when the bytes before place `i` are written. -/
def written (source target : Bytes) (i : Nat) : Bytes := source.take i ++ target.drop i

theorem set_written (hsource : i < source.length) (htarget : i < target.length) :
    (written source target i).set i source[i] = written source target (i + 1) := by
  have hlen : (source.take i).length = i := List.length_take_of_le (Nat.le_of_lt hsource)
  rw [written, List.set_append_right _ _ (Nat.le_of_eq hlen), hlen, Nat.sub_self,
    List.drop_eq_getElem_cons htarget, List.set_cons_zero, written,
    List.take_succ_eq_append_getElem hsource, List.append_assoc, List.singleton_append]

theorem yields_writeByte (hsource : i < source.length) (htarget : i < target.length) :
    (writeByte source i).Yields (written source target i) () (written source target (i + 1)) := by
  have hroom : i < (written source target i).length := by
    simp only [written, List.length_append, List.length_take, List.length_drop]
    omega
  have hbyte :
      (Act.ofOption none source[i]? : Act (Option Fault) Bytes UInt8) = pure source[i] := by
    rw [List.getElem?_eq_getElem hsource]
    rfl
  rw [writeByte, hbyte, pure_bind]
  refine Act.yields_bind.mpr ⟨_, _, Act.yields_get.mpr ⟨rfl, rfl⟩, ?_⟩
  rw [Act.require_bind, if_pos (decide_eq_true hroom)]
  exact Act.yields_modify.mpr (set_written hsource htarget)

/-- Bytes that both buffers have are written, all of them. -/
theorem yields_writeBytes (hsource : i + n ≤ source.length) (htarget : i + n ≤ target.length) :
    (writeBytes source i n).Yields (written source target i) ()
      (written source target (i + n)) := by
  induction n generalizing i with
  | zero => exact ⟨rfl, rfl⟩
  | succ n ih =>
    have hfirst : (writeByte source i).Yields (written source target i) ()
        (written source target (i + 1)) := yields_writeByte (by omega) (by omega)
    have hrest : (writeBytes source (i + 1) n).Yields (written source target (i + 1)) ()
        (written source target (i + 1 + n)) := ih (by omega) (by omega)
    rw [Nat.add_right_comm] at hrest
    exact Act.yields_bind.mpr ⟨(), _, hfirst, hrest⟩

/-! ## Copies as a whole -/

/-- **A copy in place ends as `copy` says**, and leaves what it gives, or else the target as it
was. -/
theorem copyInto_run (source : Bytes) (count : Nat) (target : Bytes) :
    (copyInto source count target).result =
        ((copy target source count).map fun _ => ()).mapError some ∧
      (copyInto source count target).state = (copy target source count).toOption.getD target := by
  unfold copyInto copy
  rw [(Act.get_bind _ _).1, (Act.get_bind _ _).2]
  by_cases hzero : count = 0
  · rw [if_pos hzero, if_pos hzero]
    exact ⟨rfl, rfl⟩
  rw [if_neg hzero, if_neg hzero]
  by_cases hrange : maxSize < count ∨ maxSize < target.length
  · rw [if_pos hrange, if_pos hrange]
    exact ⟨rfl, rfl⟩
  rw [if_neg hrange, if_neg hrange]
  by_cases hsmall : target.length < count
  · rw [if_pos hsmall, if_pos hsmall]
    exact ⟨rfl, rfl⟩
  rw [if_neg hsmall, if_neg hsmall]
  by_cases hshort : source.length < count
  · rw [if_pos hshort, if_pos hshort]
    exact ⟨rfl, rfl⟩
  rw [if_neg hshort, if_neg hshort]
  have hwritten : (writeBytes source 0 count).Yields target ()
      (written source target (0 + count)) := yields_writeBytes (by omega) (by omega)
  rw [Nat.zero_add] at hwritten
  exact hwritten

theorem yields_copyInto {target' : Bytes} :
    (copyInto source count).Yields target () target' ↔ copy target source count = .ok target' := by
  rw [Act.Yields, (copyInto_run source count target).1, (copyInto_run source count target).2]
  cases copy target source count with
  | ok bytes => exact ⟨fun h => congrArg Except.ok h.2, fun h => ⟨rfl, Except.ok.inj h⟩⟩
  | error f =>
    refine ⟨?_, ?_⟩
    · rintro ⟨hresult, -⟩
      cases hresult
    · intro h
      cases h

theorem fails_copyInto {f? : Option Fault} {target' : Bytes} :
    (copyInto source count).Fails target f? target' ↔
      target' = target ∧ ∃ f, f? = some f ∧ copy target source count = .error f := by
  rw [Act.Fails, (copyInto_run source count target).1, (copyInto_run source count target).2]
  cases copy target source count with
  | ok bytes =>
    refine ⟨?_, ?_⟩
    · rintro ⟨hresult, -⟩
      cases hresult
    · rintro ⟨-, f, -, hcopy⟩
      cases hcopy
  | error f =>
    refine ⟨fun h => ⟨h.2.symm, f, (Except.error.inj h.1).symm, rfl⟩, ?_⟩
    rintro ⟨rfl, f', rfl, h⟩
    exact ⟨congrArg (fun f => Except.error (some f)) (Except.error.inj h), rfl⟩

/-- A copy replaces the front of the target, and is made if there is nothing to copy or if both
buffers have that many bytes. -/
theorem copy_eq_ok_iff {bytes : Bytes} : copy target source count = .ok bytes ↔
    bytes = written source target count ∧ (count = 0 ∨ count ≤ target.length ∧
      count ≤ source.length ∧ count ≤ maxSize ∧ target.length ≤ maxSize) := by
  unfold copy written
  by_cases hzero : count = 0
  · simp [hzero, eq_comm]
  · simp only [hzero, if_false, Act.ite_error_eq_ok, Except.ok.injEq, false_or]
    grind

/-- What a copy in place makes of a target. -/
structure AllOrNothing (source : Bytes) (count : Nat) (target : Bytes) : Prop where
  /-- It succeeds as `copy` does, and leaves what that gives. -/
  agrees : ∀ target', (copyInto source count).Yields target () target' ↔
    copy target source count = .ok target'
  /-- If it succeeds, it has replaced as many bytes in front, and no others. -/
  copied : ∀ target', (copyInto source count).Yields target () target' →
    target'.take count = source.take count ∧ target'.drop count = target.drop count
  /-- If it fails, it was refused, and has replaced no byte. -/
  untouched : ∀ f? target', (copyInto source count).Fails target f? target' →
    target' = target ∧ ∃ f, f? = some f ∧ copy target source count = .error f
  /-- It succeeds if there is nothing to copy, or if both buffers have that many bytes and neither
  the count nor the target is too large.  What the source holds beyond the count is of no
  account. -/
  succeeds_iff : (∃ target', (copyInto source count).Yields target () target') ↔
    count = 0 ∨ count ≤ target.length ∧ count ≤ source.length ∧ count ≤ maxSize ∧
      target.length ≤ maxSize

/-- **A copy takes place whole or not at all**, whatever the two buffers and the count are. -/
theorem allOrNothing (source : Bytes) (count : Nat) (target : Bytes) :
    AllOrNothing source count target where
  agrees _ := yields_copyInto
  copied target' h := by
    obtain ⟨rfl, hsizes⟩ := copy_eq_ok_iff.mp (yields_copyInto.mp h)
    have hlen : (source.take count).length = count := by
      rw [List.length_take]
      omega
    exact ⟨List.take_left' hlen, List.drop_left' hlen⟩
  untouched _ _ := fails_copyInto.mp
  succeeds_iff := by
    simp only [yields_copyInto, copy_eq_ok_iff, exists_eq_left]

end NearField.BoundedCopy
