import NearField.Frame
import NearField.Proofs.Checked

/-!
# Reply frames stay in range

`Frame.decode` once more, with the slices and elements that it takes of a frame checked.  The length
byte of a frame is the chip's, so what it counts is tested before a slice of that length is taken.
Both end alike for all bytes (`passes_decodeChecked`).
-/

namespace NearField.Frame

open Checked

variable {σ τ α : Type}

/-- Logs a fault and fails. -/
def refuse (f : Fault) : Checked σ α := do
  Act.log .error Log.chipTopic f.message
  throw (.error f.toError)

/-- Checks identifier, code and what follows them, in a frame whose body has `len` bytes. -/
def decodeBody (frame : Bytes) (len : Nat) (command : UInt8) : Checked σ Bytes := do
  let body ← slice frame 5 (5 + len)
  let tfi ← index body 0
  if tfi ≠ chipTfi then refuse (.tfi tfi) else
    let code ← index body 1
    if code ≠ command + 1 then refuse (.command (command + 1) code) else
      let check ← index frame (5 + len)
      if check ≠ Checksum.dcs body then refuse (.dataChecksum (Checksum.dcs body) check) else
        let post ← index frame (6 + len)
        if post ≠ postamble then refuse (.postamble post) else slice body 2 body.length

/-- Reads the answer to `command`. -/
def decodeChecked (frame : Bytes) (command : UInt8) : Checked σ Bytes := do
  if frame.length < overhead then refuse .preamble
  else if (← slice frame 0 3) ≠ preamble then refuse .preamble
  else
    let len ← index frame 3
    let check ← index frame 4
    if len = 0x01 ∧ check = 0xFF then refuse .applicationError
    else if len = 0xFF ∧ check = 0xFF then refuse .extended
    else if Checksum.lcs len ≠ check then refuse .lengthChecksum
    else if len < 2 then refuse (.invalidLength len)
    else if frame.length < overhead + len.toNat then
      refuse (.truncated (overhead + len.toNat) frame.length)
    else decodeBody frame len.toNat command

/-- The program ends as the reading did, and a fault is an error. -/
def Says (r : Except Fault α) (a : Checked σ α) : Prop :=
  ∀ s, (a s).result = (r.mapError Fault.toError).mapError .error ∧ (a s).state = s

theorem says_refuse (f : Fault) : Says (.error f) (refuse f : Checked σ α) := fun _ => ⟨rfl, rfl⟩

theorem says_pure (x : α) : Says (.ok x) (pure x : Checked σ α) := fun _ => ⟨rfl, rfl⟩

theorem Says.ite {p : Prop} [Decidable p] {r r' : Except Fault α} {a a' : Checked σ α}
    (h : p → Says r a) (h' : ¬ p → Says r' a') :
    Says (if p then r else r') (if p then a else a') := by
  by_cases hp : p
  · rw [if_pos hp, if_pos hp]
    exact h hp
  · rw [if_neg hp, if_neg hp]
    exact h' hp

theorem exists_two (bs : Bytes) (h : 2 ≤ bs.length) : ∃ a b tail, bs = a :: b :: tail := by
  rcases bs with _ | ⟨a, _ | ⟨b, tail⟩⟩
  · simp at h
  · simp at h
  · exact ⟨a, b, tail, rfl⟩

/-- A content is passed by four checks. -/
theorem decodeContent_eq {len : Nat} {command tfi code check post : UInt8}
    {bytes params tail : Bytes} (hcontent : bytes.take len = tfi :: code :: params)
    (htrailer : bytes.drop len = check :: post :: tail) :
    decodeContent len command bytes =
      if tfi ≠ chipTfi then .error (.tfi tfi)
      else if code ≠ command + 1 then .error (.command (command + 1) code)
      else if check ≠ Checksum.dcs (tfi :: code :: params) then
        .error (.dataChecksum (Checksum.dcs (tfi :: code :: params)) check)
      else if post ≠ postamble then .error (.postamble post)
      else .ok params := by
  unfold decodeContent
  rw [hcontent, htrailer]
  simp only [checkTrailer, apply_ite (Except.map fun _ => params)]
  rfl

/-- A body that is all there, with a trailer behind it, is read as a content is. -/
theorem says_decodeBody (front rest : Bytes) (hfront : front.length = 5) {len : Nat}
    (hlen : 2 ≤ len) (hfit : len + 2 ≤ rest.length) (command : UInt8) :
    Says (decodeContent len command rest)
      (decodeBody (front ++ rest) len command : Checked σ Bytes) := by
  obtain ⟨tfi, code, params, hcontent⟩ := exists_two (rest.take len) (by simp; omega)
  obtain ⟨check, post, tail, htrailer⟩ := exists_two (rest.drop len) (by simp; omega)
  have hbody : (slice (front ++ rest) 5 (5 + len) : Checked σ Bytes) =
      pure (tfi :: code :: params) := by
    rw [slice_eq (by omega) (by simp; omega), ← hcontent, ← hfront, List.take_length_add_append,
      List.drop_left]
  -- what is picked out of the frame by place stands behind the content
  have hget (i : Nat) : (front ++ rest)[5 + len + i]? = (rest.drop len)[i]? := by
    rw [List.getElem?_append_right (by omega), List.getElem?_drop, hfront]
    congr 1
    omega
  have hcheck : (index (front ++ rest) (5 + len) : Checked σ UInt8) = pure check :=
    index_eq ((hget 0).trans (by rw [htrailer]; rfl))
  have hpost : (index (front ++ rest) (6 + len) : Checked σ UInt8) = pure post :=
    index_eq ((congrArg _ (by omega)).trans ((hget 1).trans (by rw [htrailer]; rfl)))
  rw [decodeContent_eq hcontent htrailer, decodeBody, hbody, pure_bind, index_eq rfl, pure_bind]
  refine .ite (fun _ => says_refuse _) fun _ => ?_
  rw [index_eq rfl, pure_bind]
  refine .ite (fun _ => says_refuse _) fun _ => ?_
  rw [hcheck, pure_bind]
  refine .ite (fun _ => says_refuse _) fun _ => ?_
  rw [hpost, pure_bind]
  refine .ite (fun _ => says_refuse _) fun _ => ?_
  rw [slice_length (by simp)]
  exact says_pure params

/-- Bytes that are too few, or do not begin with the preamble, are no frame. -/
theorem decode_of_not_preamble {frame : Bytes} (command : UInt8)
    (h : frame.length < overhead ∨ frame.take 3 ≠ preamble) :
    decode frame command = .error .preamble := by
  unfold decode
  split
  · rw [if_pos (h.resolve_right (not_not_intro rfl))]
  · rfl

/-- Decoding with checks says what decoding says, as each part is taken behind a look at the length.
-/
theorem says_decode (frame : Bytes) (command : UInt8) :
    Says (decode frame command) (decodeChecked frame command : Checked σ Bytes) := by
  unfold decodeChecked
  by_cases hlen : frame.length < overhead
  · rw [if_pos hlen, decode_of_not_preamble command (.inl hlen)]
    exact says_refuse _
  have hlong : 7 ≤ frame.length := Nat.not_lt.mp hlen
  rw [if_neg hlen, slice_eq (Nat.zero_le 3) (by omega), pure_bind, List.drop_zero]
  by_cases hpre : frame.take 3 = preamble
  · obtain ⟨len, check, rest, hrest⟩ := exists_two (frame.drop 3) (by simp; omega)
    obtain rfl : frame = 0x00 :: 0x00 :: 0xFF :: len :: check :: rest := by
      rw [← List.take_append_drop 3 frame, hpre, hrest]
      rfl
    -- both are `if`s over the same tests from here on
    rw [if_neg (not_not_intro hpre), index_eq rfl, pure_bind, index_eq rfl, pure_bind]
    unfold decode
    simp only
    rw [if_neg hlen]
    refine .ite (fun _ => says_refuse _) fun _ => .ite (fun _ => says_refuse _) fun _ => ?_
    refine .ite (fun _ => says_refuse _) fun _ => .ite (fun _ => says_refuse _) fun hshort => ?_
    refine .ite (fun _ => says_refuse _) fun hfit => ?_
    have htwo : 2 ≤ len.toNat := Nat.not_lt.mp fun h => hshort (UInt8.lt_iff_toNat_lt.mpr h)
    have hroom : len.toNat + 2 ≤ rest.length := by
      simp only [List.length_cons, overhead] at hfit
      omega
    exact says_decodeBody [0x00, 0x00, 0xFF, len, check] rest rfl htwo hroom command
  · rw [if_pos hpre, decode_of_not_preamble command (.inr hpre)]
    exact says_refuse _

variable {R : σ → τ → Prop}

/-- **No frame leads its decoder out of range**, whatever its length byte claims. -/
theorem passes_decodeChecked (frame : Bytes) (command : UInt8) :
    Passes R (decodeChecked frame command) (decodeOp frame command) := by
  intro s t hst
  obtain ⟨hresult, hstate⟩ := says_decode frame command s
  rw [(lift_run _ t).1, (lift_run _ t).2, hresult, hstate]
  unfold decodeOp
  cases decode frame command <;> exact ⟨rfl, hst⟩

end NearField.Frame
