import NearField.Act
import NearField.Checksum
import NearField.Hex

/-!
# Host frames

A normal information frame carries a frame identifier, a code and parameters between a preamble
and a postamble, with one checksum over its length and one over its content.  `Frame.encode`
builds what the host sends, `Frame.encodeReply` what the chip answers, and `Frame.decode` reads
an answer or says what is wrong with it.
-/

namespace NearField.Frame

/-- The three bytes before every frame. -/
def preamble : Bytes := [0x00, 0x00, 0xFF]

/-- The byte after every frame. -/
def postamble : UInt8 := 0x00

/-- The frame that acknowledges a command. -/
def ack : Bytes := [0x00, 0x00, 0xFF, 0x00, 0xFF, 0x00]

/-- The most command bytes that fit a normal frame. -/
def maxData : Nat := 254

/-- The bytes of a frame that are not its content. -/
def overhead : Nat := 7

/-- The identifier of frames from the host. -/
def hostTfi : UInt8 := 0xD4

/-- The identifier of frames from the chip. -/
def chipTfi : UInt8 := 0xD5

/-- A frame around a content of identifier, code and parameters. -/
def wrap (content : Bytes) : Bytes :=
  let len := UInt8.ofNat content.length
  preamble ++ len :: Checksum.lcs len :: content ++ [Checksum.dcs content, postamble]

/-- The frame that carries a command and its parameters to the chip. -/
def encode (data : Bytes) : Except Error Bytes :=
  if data.isEmpty then .error .invalidArgument
  else if maxData < data.length then .error .deviceNotSupported
  else .ok (wrap (hostTfi :: data))

/-- The frame that answers `command` with parameters. -/
def encodeReply (command : UInt8) (params : Bytes) : Bytes :=
  wrap (chipTfi :: (command + 1) :: params)

/-- Whether a frame is the acknowledgement. -/
def isAck (frame : Bytes) : Bool := frame == ack

/-- Why bytes are not the answer to a command. -/
inductive Fault where
  | preamble
  | applicationError
  | extended
  | lengthChecksum
  | invalidLength (len : UInt8)
  | truncated (required actual : Nat)
  | tfi (actual : UInt8)
  | command (expected actual : UInt8)
  | dataChecksum (expected actual : UInt8)
  | postamble (actual : UInt8)
  deriving DecidableEq, Repr

namespace Fault

/-- The wording of a fault. -/
def message : Fault → String
  | .preamble => "Frame preamble+start code mismatch"
  | .applicationError => "Application level error detected"
  | .extended => "Extended frames not supported"
  | .lengthChecksum => "Length checksum mismatch"
  | .invalidLength len => "Invalid frame length: " ++ toString len.toNat
  | .truncated required actual =>
    "Truncated frame (expected " ++ toString required ++ " bytes, got " ++ toString actual ++ ")"
  | .tfi actual => "TFI mismatch (expected 0xD5, got " ++ Hex.literal actual ++ ")"
  | .command expected actual =>
    "Command code verification failed (expected " ++ Hex.literal expected ++ ", got "
      ++ Hex.literal actual ++ ")"
  | .dataChecksum expected actual =>
    "Data checksum mismatch (expected " ++ Hex.literal expected ++ ", got "
      ++ Hex.literal actual ++ ")"
  | .postamble actual =>
    "Frame postamble mismatch (expected 0x00, got " ++ Hex.literal actual ++ ")"

/-- Extended frames are unsupported; every other fault is a transmission error. -/
def toError : Fault → Error
  | .extended => .deviceNotSupported
  | _ => .io

end Fault

/-- Checks the two bytes behind a content. -/
def checkTrailer (content : Bytes) : Bytes → Except Fault Unit
  | check :: post :: _ =>
    if check ≠ Checksum.dcs content then .error (.dataChecksum (Checksum.dcs content) check)
    else if post ≠ postamble then .error (.postamble post)
    else .ok ()
  | _ => .error .preamble

/-- Reads what follows the length fields of a frame: a content of `len` bytes and a trailer. -/
def decodeContent (len : Nat) (command : UInt8) (bytes : Bytes) : Except Fault Bytes :=
  match bytes.take len with
  | tfi :: code :: params =>
    if tfi ≠ chipTfi then .error (.tfi tfi)
    else if code ≠ command + 1 then .error (.command (command + 1) code)
    else (checkTrailer (tfi :: code :: params) (bytes.drop len)).map fun _ => params
  | _ => .error .preamble

/-- Reads the answer to `command`: the parameters behind identifier and code.  Bytes after the
frame are ignored. -/
def decode (frame : Bytes) (command : UInt8) : Except Fault Bytes :=
  match frame with
  | 0x00 :: 0x00 :: 0xFF :: len :: check :: rest =>
    if frame.length < overhead then .error .preamble
    else if len = 0x01 ∧ check = 0xFF then .error .applicationError
    else if len = 0xFF ∧ check = 0xFF then .error .extended
    else if Checksum.lcs len ≠ check then .error .lengthChecksum
    else if len < 2 then .error (.invalidLength len)
    else if frame.length < overhead + len.toNat then
      .error (.truncated (overhead + len.toNat) frame.length)
    else decodeContent len.toNat command rest
  | _ => .error .preamble

/-- Encodes as part of an operation. -/
def encodeOp {σ : Type} (data : Bytes) : Op σ Bytes := Act.ofExcept (encode data)

/-- Decodes as part of an operation: a fault is logged. -/
def decodeOp {σ : Type} (frame : Bytes) (command : UInt8) : Op σ Bytes := fun s =>
  match decode frame command with
  | .ok params => ⟨.ok params, s, []⟩
  | .error f => ⟨.error f.toError, s, [⟨.error, Log.chipTopic, f.message⟩]⟩

end NearField.Frame
