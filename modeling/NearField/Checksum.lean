import NearField.Utf8

/-!
# Checksums

The length and data checksums of host frames, which complete a sum to zero modulo 256, and the
two cyclic checksums of ISO/IEC 14443-3, which are sent low byte first.
-/

namespace NearField.Checksum

/-- Completes a length to zero modulo 256. -/
def lcs (length : UInt8) : UInt8 := 0 - length

/-- The sum of bytes modulo 256. -/
def sum (bytes : Bytes) : UInt8 := bytes.foldl (· + ·) 0

/-- Completes the sum of the bytes to zero modulo 256. -/
def dcs (bytes : Bytes) : UInt8 := 0 - sum bytes

/-- Feeds one byte to the cyclic register. -/
def crcByte (crc : UInt16) (byte : UInt8) : UInt16 :=
  let t := byte ^^^ crc.toUInt8
  let t := (t ^^^ (t <<< 4)).toUInt16
  (crc >>> 8) ^^^ (t <<< 8) ^^^ (t <<< 3) ^^^ (t >>> 4)

/-- The cyclic register after a message. -/
def crc (start : UInt16) (message : Bytes) : UInt16 := message.foldl crcByte start

/-- The two bytes of a register, low byte first. -/
def littleEndian (r : UInt16) : Bytes := [r.toUInt8, (r >>> 8).toUInt8]

/-- The checksum of type A. -/
def crcA (message : Bytes) : Bytes := littleEndian (crc 0x6363 message)

/-- The checksum of type B, which is sent inverted. -/
def crcB (message : Bytes) : Bytes := littleEndian (~~~ crc 0xFFFF message)

/-- Completes a frame with its checksum of type A. -/
def appendCrcA (message : Bytes) : Bytes := message ++ crcA message

/-- Completes a frame with its checksum of type B. -/
def appendCrcB (message : Bytes) : Bytes := message ++ crcB message

end NearField.Checksum
