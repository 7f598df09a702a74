import NearField.Error
import NearField.Hex

/-!
# Smart card status codes

The codes that a smart card service ends its calls with, their texts, and the library errors
they stand for.
-/

namespace NearField.Pcsc

/-- A status code of the smart card service. -/
structure Scard where
  code : UInt32
  deriving DecidableEq, Repr, Inhabited

namespace Scard

def success : Scard := ⟨0x00000000⟩
def cancelled : Scard := ⟨0x80100002⟩
def invalidParameter : Scard := ⟨0x80100004⟩
def insufficientBuffer : Scard := ⟨0x80100008⟩
def unknownReader : Scard := ⟨0x80100009⟩
def timeout : Scard := ⟨0x8010000A⟩
def noSmartcard : Scard := ⟨0x8010000C⟩
def invalidValue : Scard := ⟨0x80100011⟩
def notTransacted : Scard := ⟨0x80100016⟩
def readerUnavailable : Scard := ⟨0x80100017⟩
def unsupportedFeature : Scard := ⟨0x8010001F⟩
def noReadersAvailable : Scard := ⟨0x8010002E⟩
def resetCard : Scard := ⟨0x80100068⟩
def removedCard : Scard := ⟨0x80100069⟩

/-- The texts of the known codes. -/
def messages : List (UInt32 × String) :=
  [(0x00000000, "Command successful."),
    (0x80100001, "Internal error."),
    (0x80100002, "Command cancelled."),
    (0x80100003, "Invalid handle."),
    (0x80100004, "Invalid parameter given."),
    (0x80100005, "Invalid target given."),
    (0x80100006, "Not enough memory."),
    (0x80100007, "Waited too long."),
    (0x80100008, "Insufficient buffer."),
    (0x80100009, "Unknown reader specified."),
    (0x8010000A, "Command timeout."),
    (0x8010000B, "Sharing violation."),
    (0x8010000C, "No smart card inserted."),
    (0x8010000D, "Unknown card."),
    (0x8010000E, "Cannot dispose handle."),
    (0x8010000F, "Card protocol mismatch."),
    (0x80100010, "Subsystem not ready."),
    (0x80100011, "Invalid value given."),
    (0x80100012, "System cancelled."),
    (0x80100013, "RPC transport error."),
    (0x80100014, "Unknown error."),
    (0x80100015, "Invalid ATR."),
    (0x80100016, "Transaction failed."),
    (0x80100017, "Reader is unavailable."),
    (0x80100019, "PCI struct too small."),
    (0x8010001A, "Reader is unsupported."),
    (0x8010001B, "Reader already exists."),
    (0x8010001C, "Card is unsupported."),
    (0x8010001D, "Service not available."),
    (0x8010001E, "Service was stopped."),
    (0x8010002E, "Cannot find a smart card reader."),
    (0x80100065, "Card is not supported."),
    (0x80100066, "Card is unresponsive."),
    (0x80100067, "Card is unpowered."),
    (0x80100068, "Card was reset."),
    (0x80100069, "Card was removed."),
    (0x8010001F, "Feature not supported.")]

/-- The text of a code; an unknown code is shown as a number. -/
def text (s : Scard) : String :=
  (messages.lookup s.code).getD ("Unknown error: " ++ Hex.literal32 s.code)

/-- The library error that a code stands for. -/
def toError (s : Scard) : Error :=
  if s = unknownReader ∨ s = readerUnavailable ∨ s = noReadersAvailable ∨ s = noSmartcard
      ∨ s = removedCard then .noSuchDevice
  else if s = timeout then .timeout
  else if s = cancelled then .operationAborted
  else if s = insufficientBuffer then .bufferOverflow
  else if s = invalidParameter ∨ s = invalidValue then .invalidArgument
  else if s = unsupportedFeature then .deviceNotSupported
  else .io

end Scard

end NearField.Pcsc
