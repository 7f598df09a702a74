import NearField.Proofs.Checksum.Register

/-!
# Bursts of errors

A register that takes a byte moves its upper half down and adds what stands in the table for the
other half (`crcByte_eq`), and the upper halves of the table tell its entries apart
(`eq_zero_of_upper_table`).  So two registers that take a byte each become one exactly if they
differ as the bytes do, in their lower halves alone (`crcByte_eq_crcByte_iff`).

From this follow both halves of the argument about two messages that differ within two adjacent
bytes, a `Burst`.  A register tells apart what it has taken for two bytes
(`eq_of_crc_eq_of_length_le_two`), and registers that differ stay different behind whatever both
take from then on (`crc_eq_crc_iff`).  So the checksums of the two messages differ.  A frame that
ends in its own checksum leaves a register that is known beforehand (`crc_appendCrcA`,
`crc_appendCrcB`), so of two frames that differ by a burst one at most does (`burst_detected`).
-/

namespace NearField.Checksum

variable {r s start : UInt16} {a b c d : UInt8} {message message' data data' : Bytes}

/-! ## One byte -/

/-- The upper half of a register moves down, and the table's entry for the lower half is added. -/
theorem crcByte_eq (r : UInt16) (b : UInt8) :
    crcByte r b = r >>> 8 ^^^ crcByte 0 (b ^^^ r.toUInt8) := by
  simp [crcByte, UInt16.xor_assoc]

theorem crcByte_zero_zero : crcByte 0 0 = 0 := by
  decide

/-- No entry of the table but the first has its upper half clear. -/
theorem eq_zero_of_upper_table : ∀ t : UInt8, crcByte 0 t >>> 8 = 0 → t = 0 := by
  decide +kernel

theorem toNat_shiftRight_eight (r : UInt16) : (r >>> 8).toNat = r.toNat / 256 := by
  simp [Nat.shiftRight_eq_div_pow]

theorem shiftRight_shiftRight (r : UInt16) : r >>> 8 >>> 8 = 0 := by
  have hsmall := r.toNat_lt
  rw [← UInt16.toNat_inj, toNat_shiftRight_eight, toNat_shiftRight_eight, UInt16.toNat_zero]
  omega

theorem toUInt16_shiftRight (b : UInt8) : b.toUInt16 >>> 8 = 0 := by
  have hsmall := b.toNat_lt
  rw [← UInt16.toNat_inj, toNat_shiftRight_eight, UInt8.toNat_toUInt16, UInt16.toNat_zero]
  omega

theorem toUInt16_eq_zero_iff : b.toUInt16 = 0 ↔ b = 0 := by
  rw [← UInt16.toNat_inj, ← UInt8.toNat_inj, UInt8.toNat_toUInt16]
  rfl

/-- A register is cleared by its lower half, if its upper half is clear. -/
theorem crcByte_eq_zero_iff : crcByte r b = 0 ↔ r = b.toUInt16 := by
  constructor
  · intro h
    have htable : b ^^^ r.toUInt8 = 0 := by
      apply eq_zero_of_upper_table
      have hupper : crcByte r b >>> 8 = 0 := by rw [h, UInt16.zero_shiftRight]
      rwa [crcByte_eq, UInt16.shiftRight_xor, shiftRight_shiftRight, UInt16.zero_xor] at hupper
    have hhigh : r >>> 8 = 0 := by
      rwa [crcByte_eq, htable, crcByte_zero_zero, UInt16.xor_zero] at h
    have hclear : upper (UInt16.toUInt8 0) = 0 := by decide
    rw [← upper_xor_lower r, hhigh, hclear, UInt16.zero_xor, UInt8.xor_eq_zero_iff.mp htable]
  · rintro rfl
    rw [crcByte_eq, toUInt16_shiftRight, UInt16.zero_xor]
    simp [crcByte_zero_zero]

/-- **Two registers that take a byte each become one** exactly if they differ as the bytes do. -/
theorem crcByte_eq_crcByte_iff : crcByte r a = crcByte s b ↔ r ^^^ s = (a ^^^ b).toUInt16 := by
  rw [← UInt16.xor_eq_zero_iff, ← crcByte_xor, crcByte_eq_zero_iff]

theorem crcByte_left_inj : crcByte r b = crcByte s b ↔ r = s := by
  rw [crcByte_eq_crcByte_iff, UInt8.xor_self, toUInt16_eq_zero_iff.mpr rfl,
    UInt16.xor_eq_zero_iff]

theorem crcByte_right_inj : crcByte r a = crcByte r b ↔ a = b := by
  rw [crcByte_eq_crcByte_iff, UInt16.xor_self, eq_comm, toUInt16_eq_zero_iff,
    UInt8.xor_eq_zero_iff]

/-- A register tells apart what it has taken for two bytes. -/
theorem crcByte_crcByte_inj :
    crcByte (crcByte r a) b = crcByte (crcByte r c) d ↔ a = c ∧ b = d := by
  constructor
  · intro h
    -- the first bytes leave registers whose upper halves agree, and these tell them apart
    have hfirst : crcByte 0 (a ^^^ c) = (b ^^^ d).toUInt16 := by
      rw [← crcByte_eq_crcByte_iff.mp h, ← crcByte_xor, UInt16.xor_self]
    have hsame : a ^^^ c = 0 := by
      apply eq_zero_of_upper_table
      rw [hfirst, toUInt16_shiftRight]
    obtain rfl : a = c := UInt8.xor_eq_zero_iff.mp hsame
    exact ⟨rfl, crcByte_right_inj.mp h⟩
  · rintro ⟨rfl, rfl⟩
    rfl

/-! ## Messages -/

theorem crc_append (start : UInt16) (message rest : Bytes) :
    crc start (message ++ rest) = crc (crc start message) rest :=
  List.foldl_append

/-- **Registers that differ stay different**, whatever both take. -/
theorem crc_eq_crc_iff : crc r message = crc s message ↔ r = s := by
  induction message generalizing r s with
  | nil => rfl
  | cons byte message ih => exact ih.trans crcByte_left_inj

theorem eq_of_crc_eq_of_length_le_two (hlength : message.length = message'.length)
    (hshort : message.length ≤ 2) (h : crc r message = crc r message') : message = message' := by
  match message, message' with
  | [], [] => rfl
  | [a], [c] => rw [crcByte_right_inj.mp h]
  | [a, b], [c, d] =>
      obtain ⟨rfl, rfl⟩ := crcByte_crcByte_inj.mp h
      rfl
  | _ :: _ :: _ :: _, _ =>
      simp only [List.length_cons] at hshort
      omega

/-- Two messages of the same length that differ, and differ only within two adjacent bytes. -/
structure Burst (message message' : Bytes) : Prop where
  length : message.length = message'.length
  differ : message ≠ message'
  within : ∃ i, ∀ j, j ≠ i → j ≠ i + 1 → message[j]? = message'[j]?

/-- What stands in front of a burst is the same, and so is what stands behind it. -/
theorem Burst.exists_parts (h : Burst message message') :
    ∃ before damaged damaged' behind, message = before ++ (damaged ++ behind) ∧
      message' = before ++ (damaged' ++ behind) ∧ damaged.length = damaged'.length ∧
        damaged.length ≤ 2 ∧ damaged ≠ damaged' := by
  obtain ⟨i, hwithin⟩ := h.within
  have hbefore : message.take i = message'.take i := by
    apply List.ext_getElem?
    intro j
    rw [List.getElem?_take, List.getElem?_take]
    split
    · exact hwithin j (by omega) (by omega)
    · rfl
  have hbehind : message.drop (i + 2) = message'.drop (i + 2) := by
    apply List.ext_getElem?
    intro j
    rw [List.getElem?_drop, List.getElem?_drop]
    exact hwithin (i + 2 + j) (by omega) (by omega)
  -- both messages are cut at the place of the burst and two bytes behind it
  have hsplit (m : Bytes) : m.take i ++ ((m.drop i).take 2 ++ m.drop (i + 2)) = m := by
    rw [← List.drop_drop, List.take_append_drop, List.take_append_drop]
  have hsplit' := hsplit message'
  rw [← hbefore, ← hbehind] at hsplit'
  refine ⟨_, _, _, _, (hsplit message).symm, hsplit'.symm, ?_, List.length_take_le 2 _,
    fun hsame => h.differ ?_⟩
  · rw [List.length_take, List.length_take, List.length_drop, List.length_drop, h.length]
  · rw [← hsplit message, ← hsplit', hsame]

/-- **A burst changes what a message leaves in a register**, from any start. -/
theorem Burst.crc_ne (h : Burst message message') (start : UInt16) :
    crc start message ≠ crc start message' := by
  obtain ⟨before, damaged, damaged', behind, rfl, rfl, hlength, hshort, hdiffer⟩ := h.exists_parts
  intro heq
  rw [crc_append, crc_append, crc_append, crc_append, crc_eq_crc_iff] at heq
  exact hdiffer (eq_of_crc_eq_of_length_le_two hlength hshort heq)

/-! ## Frames -/

theorem littleEndian_injective : Function.Injective littleEndian := by
  intro r s h
  obtain ⟨hlow, hhigh⟩ : r.toUInt8 = s.toUInt8 ∧ (r >>> 8).toUInt8 = (s >>> 8).toUInt8 := by
    simpa [littleEndian] using h
  rw [← upper_xor_lower r, ← upper_xor_lower s, hlow, hhigh]

/-- A register is cleared by its own two bytes. -/
theorem crc_littleEndian (r : UInt16) : crc r (littleEndian r) = 0 := by
  have hlow : crcByte r r.toUInt8 = r >>> 8 := by
    rw [crcByte_eq, UInt8.xor_self, crcByte_zero_zero, UInt16.xor_zero]
  have hhigh : crcByte (r >>> 8) (r >>> 8).toUInt8 = 0 := by
    rw [crcByte_eq, UInt8.xor_self, crcByte_zero_zero, shiftRight_shiftRight, UInt16.xor_zero]
  change crcByte (crcByte r r.toUInt8) (r >>> 8).toUInt8 = 0
  rw [hlow, hhigh]

/-- A register that takes its own two bytes inverted is known beforehand. -/
theorem crc_littleEndian_not (r : UInt16) : crc r (littleEndian (~~~r)) = 0xF0B8 := by
  have hinverted : ~~~r = r ^^^ 0xFFFF := UInt16.xor_neg_one.symm
  have hlinear : crc (r ^^^ 0) (littleEndian (r ^^^ 0xFFFF)) =
      crc r (littleEndian r) ^^^ crc 0 (littleEndian 0xFFFF) := by
    simp only [littleEndian, crc, List.foldl_cons, List.foldl_nil, UInt16.toUInt8_xor,
      UInt16.shiftRight_xor, crcByte_xor]
  rw [UInt16.xor_zero, ← hinverted, crc_littleEndian] at hlinear
  rw [hlinear]
  decide

theorem crc_appendCrcA (data : Bytes) : crc 0x6363 (appendCrcA data) = 0 := by
  rw [appendCrcA, crcA, crc_append, crc_littleEndian]

theorem crc_appendCrcB (data : Bytes) : crc 0xFFFF (appendCrcB data) = 0xF0B8 := by
  rw [appendCrcB, crcB, crc_append, crc_littleEndian_not]

theorem Burst.crcA_ne (h : Burst message message') : crcA message ≠ crcA message' :=
  littleEndian_injective.ne (h.crc_ne 0x6363)

theorem Burst.crcB_ne (h : Burst message message') : crcB message ≠ crcB message' := by
  intro heq
  exact h.crc_ne 0xFFFF (UInt16.not_inj.mp (littleEndian_injective heq))

/-- **A burst of errors is detected.**  Two messages of the same length that differ, and differ
only within two adjacent bytes, have different checksums of either type.  So a frame that was
completed with its checksum and whose data were damaged in this way does not end in the checksum
of its data; nor does it if the damage is anywhere else in the frame, or in both. -/
theorem burst_detected (h : Burst message message') :
    (crcA message ≠ crcA message' ∧ crcB message ≠ crcB message') ∧
      (∀ data, message' ++ crcA message ≠ appendCrcA data) ∧
      (∀ data, message' ++ crcB message ≠ appendCrcB data) ∧
      (∀ data data', message = appendCrcA data → message' ≠ appendCrcA data') ∧
      ∀ data data', message = appendCrcB data → message' ≠ appendCrcB data' := by
  refine ⟨⟨h.crcA_ne, h.crcB_ne⟩, fun data hown => ?_, fun data hown => ?_, ?_, ?_⟩
  · obtain ⟨rfl, hsame⟩ := List.append_inj' hown rfl
    exact h.crcA_ne hsame
  · obtain ⟨rfl, hsame⟩ := List.append_inj' hown rfl
    exact h.crcB_ne hsame
  · rintro data data' rfl rfl
    exact h.crc_ne 0x6363 ((crc_appendCrcA data).trans (crc_appendCrcA data').symm)
  · rintro data data' rfl rfl
    exact h.crc_ne 0xFFFF ((crc_appendCrcB data).trans (crc_appendCrcB data').symm)

/-- The command that halts a tag, with its last byte and the first one of its checksum damaged. -/
theorem burst_detected_halt :
    let frame := appendCrcA [0x50, 0x00]
    let damaged : Bytes := [0x50, 0x01, 0x56, 0xCD]
    Burst frame damaged ∧ crcA frame ≠ crcA damaged ∧ crcB frame ≠ crcB damaged ∧
      (∀ data, damaged ++ crcA frame ≠ appendCrcA data) ∧ ∀ data, damaged ≠ appendCrcA data := by
  intro frame damaged
  have hframe : frame = [0x50, 0x00, 0x57, 0xCD] := by decide
  have hburst : Burst frame damaged := by
    rw [hframe]
    refine ⟨rfl, by decide, 1, fun j hfirst hsecond => ?_⟩
    match j with
    | 0 => rfl
    | 1 => exact absurd rfl hfirst
    | 2 => exact absurd rfl hsecond
    | j + 3 => rfl
  obtain ⟨⟨hA, hB⟩, hdataA, -, hframeA, -⟩ := burst_detected hburst
  exact ⟨hburst, hA, hB, hdataA, fun data => hframeA _ data rfl⟩

/-- A burst of three bytes may go unnoticed. -/
example : crcA [0x00, 0x00, 0x00] = crcA [0x01, 0x89, 0x11] := by decide

end NearField.Checksum
