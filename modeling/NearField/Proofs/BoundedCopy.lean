import NearField.BoundedCopy
import NearField.Proofs.Checked

/-!
# Bounded copies that are made

A buffer of the right size takes a source whole (`copy_whole`), and a buffer that holds something
can be wiped (`wipe_of_ne_nil`), unless a size is beyond what any buffer has.  Where a copy or a
wipe is made, it is so without any effect on what an operation works on (`copyOp_of_copy`,
`wipeOp_of_wipe`).

Whatever the sizes are, a copy takes no bytes that one of its buffers does not have
(`passes_copyChecked`).
-/

namespace NearField.BoundedCopy

variable {σ : Type}

/-- A source that is as long as its target replaces it. -/
theorem copy_whole {target source : Bytes} (hlen : target.length = source.length)
    (hmax : source.length ≤ maxSize) : copy target source source.length = .ok source := by
  unfold copy
  by_cases hzero : source.length = 0
  · rw [if_pos hzero, List.length_eq_zero_iff.mp (hlen.trans hzero),
      List.length_eq_zero_iff.mp hzero]
  · have hrange : ¬ (maxSize < source.length ∨ maxSize < target.length) := by omega
    rw [if_neg hzero, if_neg hrange, if_neg (by omega), if_neg (Nat.lt_irrefl _), List.take_length,
      ← hlen, List.drop_length, List.append_nil]

/-- A buffer within the limit is filled with zeros. -/
theorem wipe_of_ne_nil {buffer : Bytes} (hne : buffer ≠ []) (hmax : buffer.length ≤ maxSize) :
    wipe buffer = .ok (List.replicate buffer.length 0) := by
  have hempty : ¬ buffer.isEmpty = true := by simpa using hne
  rw [wipe, if_neg hempty, if_neg (Nat.not_lt.mpr hmax)]

/-- A copy that is made logs nothing and changes no other state. -/
theorem copyOp_of_copy {target source bytes : Bytes} {count : Nat}
    (h : copy target source count = .ok bytes) :
    (copyOp target source count : Op σ Bytes) = pure bytes := by
  funext s
  rw [copyOp, h]
  rfl

/-- So does wiping. -/
theorem wipeOp_of_wipe {buffer zeros : Bytes} (h : wipe buffer = .ok zeros) :
    (wipeOp buffer : Op σ Unit) = pure () := by
  funext s
  rw [wipeOp, h]
  rfl

/-! ## Accesses of a copy -/

open Checked

/-- Logs a fault and fails. -/
def refuse (f : Fault) : Checked σ Bytes := fun s => ⟨.error (.error f.toError), s, f.records⟩

/-- `copyOp` once more, with the slices of both buffers checked, and that they are of one size. -/
def copyChecked (target source : Bytes) (count : Nat) : Checked σ Bytes := do
  if count = 0 then return target
  else if maxSize < count ∨ maxSize < target.length then refuse .range
  else if target.length < count then refuse (.overflow target.length count)
  else if source.length < count then refuse .invalid
  else
    let old ← slice target 0 count
    let new ← slice source 0 count
    Act.require (new.length = old.length) .outOfRange
    return new ++ target.drop count

/-- **No copy is out of range**, and checking it makes no difference. -/
theorem passes_copyChecked (target source : Bytes) (count : Nat) :
    Passes Eq (copyChecked target source count : Checked σ Bytes)
      (copyOp target source count) := by
  rintro s _ rfl
  unfold copyChecked copyOp copy
  by_cases hzero : count = 0
  · simp only [hzero, if_pos]
    exact ⟨rfl, rfl⟩
  by_cases hrange : maxSize < count ∨ maxSize < target.length
  · simp only [hzero, hrange, if_pos, if_false]
    exact ⟨rfl, rfl⟩
  by_cases hsmall : target.length < count
  · simp only [hzero, hrange, hsmall, if_pos, if_false]
    exact ⟨rfl, rfl⟩
  by_cases hshort : source.length < count
  · simp only [hzero, hrange, hsmall, hshort, if_pos, if_false]
    exact ⟨rfl, rfl⟩
  · have htarget := Nat.not_lt.mp hsmall
    have hsource := Nat.not_lt.mp hshort
    have hsize : decide ((source.take count).length = (target.take count).length) = true := by
      simp [htarget, hsource]
    simp only [hzero, hrange, hsmall, hshort, if_false, slice_eq (Nat.zero_le _) htarget,
      slice_eq (Nat.zero_le _) hsource, pure_bind, List.drop_zero, hsize, Act.require_bind, if_pos]
    exact ⟨rfl, rfl⟩

end NearField.BoundedCopy
