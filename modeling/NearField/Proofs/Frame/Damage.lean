import Mathlib.Algebra.BigOperators.Group.List.Basic
import Mathlib.Data.UInt
import NearField.Proofs.Delimited

/-!
# Damaged replies

A reply of which one byte was replaced, or the end is missing, is not read as a reply
(`decode_damaged`).

Every byte of a frame stands in one of four parts: the preamble, the length fields, the content with
its checksum, and the postamble.  The bytes of each part have a sum that is the same for all frames
(`sumOf_wrap`), and one byte can not be replaced without changing the sum of its part
(`Checksum.eq_of_sum_set`).  The third part is as long as the length byte says, but that byte stands
in the second, whose place is fixed: so a replaced length byte is found out before it is believed
(`getElem_of_set_eq_wrap`).
-/

namespace NearField

/-- A sum stays the same only if the byte does. -/
theorem Checksum.eq_of_sum_set {bytes : Bytes} {i : Nat} {b : UInt8} (hi : i < bytes.length)
    (h : sum (bytes.set i b) = sum bytes) : bytes[i] = b := by
  have hsum (bytes : Bytes) : sum bytes = bytes.sum := List.sum_eq_foldl.symm
  rw [hsum, hsum, List.sum_set', dif_pos hi, add_eq_left] at h
  exact neg_add_eq_zero.mp h

namespace Frame

variable {content content' tail : Bytes} {i : Nat} {b : UInt8}

theorem length_wrap (content : Bytes) : (wrap content).length = content.length + overhead := by
  rw [← List.append_nil (wrap content), wrap_append]
  simp [overhead]

/-! ## Parts of a frame -/

/-- The sum of the bytes of a frame from place `start` up to place `stop`. -/
def sumOf (frame : Bytes) (start stop : Nat) : UInt8 :=
  Checksum.sum ((frame.take stop).drop start)

theorem sumOf_part {frame : Bytes} {start stop : Nat} (before part after : Bytes)
    (hframe : frame = before ++ (part ++ after)) (hstart : before.length = start)
    (hstop : start + part.length = stop) : sumOf frame start stop = Checksum.sum part := by
  subst hframe hstart hstop
  rw [sumOf, List.take_length_add_append, List.drop_left, List.take_left]

/-- A byte that is replaced in a part changes its sum. -/
theorem getElem_of_sumOf_set {frame : Bytes} {start stop : Nat} (hi : i < frame.length)
    (hstart : start ≤ i) (hstop : i < stop)
    (h : sumOf (frame.set i b) start stop = sumOf frame start stop) : frame[i] = b := by
  rw [sumOf, List.take_set, List.drop_set, if_neg (Nat.not_lt.mpr hstart)] at h
  have hpart : i - start < ((frame.take stop).drop start).length := by
    rw [List.length_drop, List.length_take]
    omega
  have hsame := Checksum.eq_of_sum_set hpart h
  rw [List.getElem_drop, List.getElem_take] at hsame
  exact (getElem_congr_idx (Nat.add_sub_cancel' hstart).symm).trans hsame

/-- Where the parts of a frame start and stop whose content has `n` bytes. -/
def parts (n : Nat) : List (Nat × Nat) := [(0, 3), (3, 5), (5, n + 6), (n + 6, n + 7)]

/-- Each byte of a frame stands in a part. -/
theorem exists_part {n : Nat} (h : i < n + 7) : ∃ part ∈ parts n, part.1 ≤ i ∧ i < part.2 := by
  simp only [parts, List.mem_cons, List.not_mem_nil, or_false, exists_eq_or_imp, exists_eq_left]
  omega

/-- What stands in front of a content. -/
def header (content : Bytes) : Bytes :=
  preamble ++ [UInt8.ofNat content.length, Checksum.lcs (UInt8.ofNat content.length)]

/-- **The parts of a frame have settled sums**, whatever its content is and whatever follows it. -/
theorem sumOf_wrap (content tail : Bytes) {part : Nat × Nat} (h : part ∈ parts content.length) :
    sumOf (wrap content ++ tail) part.1 part.2 = if part.1 = 0 then 0xFF else 0 := by
  simp only [parts, List.mem_cons, List.not_mem_nil, or_false] at h
  rcases h with rfl | rfl | rfl | rfl
  · rfl
  · exact Checksum.sum_lcs _
  · have hcontent : sumOf (wrap content ++ tail) 5 (content.length + 6) =
        Checksum.sum (content ++ [Checksum.dcs content]) := by
      refine sumOf_part (header content) _ (postamble :: tail) ?_ rfl ?_
      · simp [wrap, header]
      · rw [List.length_append, List.length_singleton]
        omega
    exact hcontent.trans (Checksum.sum_dcs content)
  · refine sumOf_part (header content ++ (content ++ [Checksum.dcs content])) [postamble] tail ?_ ?_
      rfl
    · simp [wrap, header]
    · simp [header, preamble]

/-! ## Replaced bytes -/

/-- **A byte of a frame is replaced by itself** if there is a frame in front again. -/
theorem getElem_of_set_eq_wrap (hi : i < (wrap content).length) (hlen : content.length ≤ 255)
    (hlen' : content'.length ≤ 255) (h : (wrap content).set i b = wrap content' ++ tail) :
    (wrap content)[i] = b := by
  have hsettled : ∀ part, part ∈ parts content.length → part ∈ parts content'.length →
      part.1 ≤ i → i < part.2 → (wrap content)[i] = b := by
    intro part hpart hpart' hstart hstop
    have hsum := sumOf_wrap content [] hpart
    rw [List.append_nil] at hsum
    refine getElem_of_sumOf_set hi hstart hstop ?_
    rw [h, sumOf_wrap content' tail hpart', hsum]
  -- the third and the fourth part are in one place in both only if the length byte is the same
  by_cases hlength : i = 3
  · subst hlength
    exact hsettled (3, 5) (by simp [parts]) (by simp [parts]) (by decide) (by decide)
  · have hcount : UInt8.ofNat content.length = UInt8.ofNat content'.length := by
      have hplace : ((wrap content).set i b)[3]? = (wrap content)[3]? :=
        List.getElem?_set_ne hlength
      rw [h] at hplace
      exact (Option.some.inj hplace).symm
    have hsame : content.length = content'.length := by
      rw [← toNat_length hlen, hcount, toNat_length hlen']
    obtain ⟨part, hpart, hstart, hstop⟩ := exists_part (length_wrap content ▸ hi)
    exact hsettled part hpart (hsame ▸ hpart) hstart hstop

/-- **No damaged reply is read as a reply**: replacing one byte of it by another one makes reading
fail, and so does cutting off an end of it. -/
theorem decode_damaged (command : UInt8) {params : Bytes} (h : params.length ≤ 253) :
    (∀ i b, (hi : i < (encodeReply command params).length) →
      (encodeReply command params)[i] ≠ b →
        ∃ fault, decode ((encodeReply command params).set i b) command = .error fault) ∧
    ∀ cut, cut <+: encodeReply command params → cut ≠ encodeReply command params →
      ∃ fault, decode cut command = .error fault := by
  refine ⟨fun i b hi hne => ?_, fun cut hcut hne => ?_⟩
  · -- what decodes begins with a frame, and no two of them differ in one byte alone
    cases hread : decode ((encodeReply command params).set i b) command with
    | error fault => exact ⟨fault, rfl⟩
    | ok params' =>
        obtain ⟨h', tail, hframe⟩ := eq_encodeReply_of_decode hread
        exact absurd (getElem_of_set_eq_wrap hi (length_reply command h) (length_reply command h')
          hframe) hne
  · -- what decodes begins with a frame, which a cut of one can not hold
    cases hread : decode cut command with
    | error fault => exact ⟨fault, rfl⟩
    | ok params' =>
        obtain ⟨h', tail, rfl⟩ := eq_encodeReply_of_decode hread
        obtain ⟨rest, hwhole⟩ := hcut
        have hend : encodeReply command params' ++ (tail ++ rest) =
            encodeReply command params ++ [] := by
          rw [← List.append_assoc, hwhole, List.append_nil]
        obtain ⟨-, -, hnothing⟩ := encodeReply_append_inj h' h hend
        obtain ⟨rfl, rfl⟩ := List.append_eq_nil_iff.mp hnothing
        rw [List.append_nil] at hwhole
        exact absurd hwhole hne

/-- A reply of two parameters whose length byte says three, and the same reply without its
postamble. -/
theorem decode_damaged_firmware :
    let reply : Bytes := [0x00, 0x00, 0xFF, 0x04, 0xFC, 0xD5, 0x03, 0x32, 0x01, 0xF5, 0x00]
    ([0x32, 0x01] : Bytes).length ≤ 253 ∧ encodeReply 0x02 [0x32, 0x01] = reply ∧
      (∃ fault, decode (reply.set 3 0x05) 0x02 = .error fault) ∧
      ∃ fault, decode (reply.take 10) 0x02 = .error fault := by
  have hfits : ([0x32, 0x01] : Bytes).length ≤ 253 := by decide
  obtain ⟨hreplaced, hcut⟩ := decode_damaged 0x02 hfits
  refine ⟨hfits, rfl, ?_, ?_⟩
  · exact hreplaced 3 0x05 (by decide) (by decide)
  · exact hcut _ (List.take_prefix 10 _) (by decide)

end Frame

end NearField
