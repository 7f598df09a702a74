import Mathlib.Data.FinEnum
import NearField.Checksum

/-!
# Cyclic checksums bit by bit

A cyclic checksum is what a message leaves in a shift register that takes its bits one at a time,
the least significant bit of each byte first (`register`).  `crc` takes a whole byte at once and
leaves the same (`crc_eq_register`).

What a register holds after a byte is linear in exclusive or, whether the byte is taken bit by bit
(`shiftByte_xor`) or at once (`crcByte_xor`).  So both ways agree on every register and every byte
if they agree on the upper half of a register, on its lower half and on a byte, each by itself
(`shiftByte_eq`): these are 256 cases three times, where there are 65536 times 256 together.
-/

namespace NearField.Checksum

/-- x¹⁶ + x¹² + x⁵ + 1, reflected: the power `n` stands at place `15 - n`, and the highest is left
out. -/
def polynomial : UInt16 := 0x8408

/-- What is added to a register for a bit that is fed back. -/
def feedback (bit : Bool) : UInt16 := if bit then polynomial else 0

/-- Takes one bit: the register moves down by one place, and the bit that falls out is fed back
together with the one that is taken. -/
def shiftBit (r : UInt16) (bit : Bool) : UInt16 := r >>> 1 ^^^ feedback (r.toNat.testBit 0 ^^ bit)

/-- The bits of a byte, the least significant first. -/
def bitsOf (byte : UInt8) : List Bool := (List.range 8).map byte.toNat.testBit

/-- Takes the bits of a byte. -/
def shiftByte (r : UInt16) (byte : UInt8) : UInt16 := (bitsOf byte).foldl shiftBit r

/-- What a message leaves in a register that takes it bit by bit. -/
def register (start : UInt16) (message : Bytes) : UInt16 :=
  (message.flatMap bitsOf).foldl shiftBit start

/-! ## Both ways are linear -/

theorem feedback_xor (a b : Bool) : feedback (a ^^ b) = feedback a ^^^ feedback b := by
  cases a <;> cases b <;> rfl

/-- The register is linear in what it holds and in what is shifted in. -/
theorem shiftBit_xor (r s : UInt16) (a b : Bool) :
    shiftBit (r ^^^ s) (a ^^ b) = shiftBit r a ^^^ shiftBit s b := by
  simp only [shiftBit, UInt16.toNat_xor, Nat.testBit_xor, UInt16.shiftRight_xor, feedback_xor]
  ac_rfl

theorem shiftByte_xor (r s : UInt16) (a b : UInt8) :
    shiftByte (r ^^^ s) (a ^^^ b) = shiftByte r a ^^^ shiftByte s b := by
  simp only [shiftByte, bitsOf, List.foldl_map, UInt8.toNat_xor, Nat.testBit_xor]
  -- which places are visited plays no part
  generalize List.range 8 = places
  induction places generalizing r s with
  | nil => rfl
  | cons place places ih => simp only [List.foldl_cons, shiftBit_xor, ih]

/-- So is the arithmetic that takes a byte at a time. -/
theorem crcByte_xor (r s : UInt16) (a b : UInt8) :
    crcByte (r ^^^ s) (a ^^^ b) = crcByte r a ^^^ crcByte s b := by
  simp only [crcByte, UInt16.toUInt8_xor, UInt8.toUInt16_xor, UInt8.shiftLeft_xor,
    UInt16.shiftLeft_xor, UInt16.shiftRight_xor]
  ac_rfl

/-! ## Both ways agree -/

/-- A register whose upper half is this byte. -/
def upper (half : UInt8) : UInt16 := half.toUInt16 <<< 8

/-- A register is made of its two halves. -/
theorem upper_xor_lower (r : UInt16) : upper (r >>> 8).toUInt8 ^^^ r.toUInt8.toUInt16 = r := by
  apply UInt16.eq_of_toBitVec_eq
  ext i hi
  simp only [upper, UInt16.toBitVec_xor, UInt16.toBitVec_shiftLeft, UInt16.toBitVec_shiftRight,
    UInt8.toBitVec_toUInt16, UInt16.toBitVec_toUInt8, BitVec.getElem_xor, BitVec.getElem_setWidth]
  by_cases hlow : i < 8
  · simp [hlow, hi]
  · have hplace : 8 + (i - 8) = i := by omega
    have hsmall : i - 8 < 8 := by omega
    simp [hlow, hi, hplace, hsmall]

/-- Both agree on what is in the upper half of the register. -/
theorem shiftByte_upper : ∀ half, shiftByte (upper half) 0 = crcByte (upper half) 0 := by
  decide +kernel

/-- Both agree on what is in its lower half. -/
theorem shiftByte_lower :
    ∀ half : UInt8, shiftByte half.toUInt16 0 = crcByte half.toUInt16 0 := by
  decide +kernel

/-- Both agree on a byte that comes to an empty register. -/
theorem shiftByte_zero : ∀ byte, shiftByte 0 byte = crcByte 0 byte := by
  decide +kernel

/-- **A byte taken at once** leaves what its bits leave, in every register. -/
theorem shiftByte_eq (r : UInt16) (byte : UInt8) : shiftByte r byte = crcByte r byte := by
  have hsplit : (0 : UInt8) ^^^ 0 ^^^ byte = byte := by simp
  have hwhole : upper (r >>> 8).toUInt8 ^^^ r.toUInt8.toUInt16 ^^^ 0 = r := by
    rw [UInt16.xor_zero, upper_xor_lower]
  calc shiftByte r byte
    _ = shiftByte (upper (r >>> 8).toUInt8) 0 ^^^ shiftByte r.toUInt8.toUInt16 0
          ^^^ shiftByte 0 byte := by
      rw [← shiftByte_xor, ← shiftByte_xor, hsplit, hwhole]
    _ = crcByte (upper (r >>> 8).toUInt8) 0 ^^^ crcByte r.toUInt8.toUInt16 0
          ^^^ crcByte 0 byte := by
      rw [shiftByte_upper, shiftByte_lower, shiftByte_zero]
    _ = crcByte r byte := by
      rw [← crcByte_xor, ← crcByte_xor, hsplit, hwhole]

/-- A message taken byte by byte leaves what its bits leave. -/
theorem crc_eq (start : UInt16) (message : Bytes) : crc start message = register start message := by
  have hbyte : (fun r byte => (bitsOf byte).foldl shiftBit r) = crcByte := by
    funext r byte
    exact shiftByte_eq r byte
  rw [register, List.foldl_flatMap, hbyte, crc]

/-- The lower half goes first. -/
theorem littleEndian_eq (r : UInt16) :
    littleEndian r = [UInt8.ofNat (r.toNat % 256), UInt8.ofNat (r.toNat / 256)] := by
  have hlow : r.toUInt8 = UInt8.ofNat (r.toNat % 256) := UInt8.toNat_inj.mp (by simp)
  have hhigh : (r >>> 8).toUInt8 = UInt8.ofNat (r.toNat / 256) :=
    UInt8.toNat_inj.mp (by simp [Nat.shiftRight_eq_div_pow])
  rw [littleEndian, hlow, hhigh]

/-- **Cyclic checksums are those of the shift register**, from any start and for every message: that
of type A starts from 6363, that of type B from FFFF and is inverted at the end, and both are sent
low byte first. -/
theorem crc_eq_register (message : Bytes) :
    let a := register 0x6363 message
    let b := ~~~ register 0xFFFF message
    (∀ start, crc start message = register start message) ∧
      crcA message = [UInt8.ofNat (a.toNat % 256), UInt8.ofNat (a.toNat / 256)] ∧
      crcB message = [UInt8.ofNat (b.toNat % 256), UInt8.ofNat (b.toNat / 256)] := by
  intro a b
  refine ⟨fun start => crc_eq start message, ?_, ?_⟩
  · rw [crcA, crc_eq, littleEndian_eq]
  · rw [crcB, crc_eq, littleEndian_eq]

/-- The request that wakes tags of type B, and its checksum. -/
example : ~~~ register 0xFFFF [0x05, 0x00, 0x08] = 0x7339 := by decide +kernel

end NearField.Checksum
