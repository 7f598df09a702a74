import NearField.Named

/-!
# Errors

Every public operation succeeds or fails with one `Error`.  Each error has a stable negative
code and a text.
-/

namespace NearField

/-- Why an operation failed. -/
inductive Error where
  | io
  | invalidArgument
  | deviceNotSupported
  | noSuchDevice
  | bufferOverflow
  | timeout
  | operationAborted
  | notImplemented
  | targetReleased
  | rfTransmission
  | mifareAuthFailed
  | soft
  | chip
  deriving DecidableEq, Repr, Inhabited

namespace Error

/-- All errors, in the order of their codes. -/
def all : List Error :=
  [.io, .invalidArgument, .deviceNotSupported, .noSuchDevice, .bufferOverflow, .timeout,
    .operationAborted, .notImplemented, .targetReleased, .rfTransmission, .mifareAuthFailed,
    .soft, .chip]

/-- The stable negative code. -/
def code : Error → Int
  | .io => -1
  | .invalidArgument => -2
  | .deviceNotSupported => -3
  | .noSuchDevice => -4
  | .bufferOverflow => -5
  | .timeout => -6
  | .operationAborted => -7
  | .notImplemented => -8
  | .targetReleased => -10
  | .rfTransmission => -20
  | .mifareAuthFailed => -30
  | .soft => -80
  | .chip => -90

/-- The error with a given code. -/
def ofCode? (code : Int) : Option Error := all.find? fun e => e.code == code

/-- The text of an error. -/
def text : Error → String
  | .io => "Input / Output Error"
  | .invalidArgument => "Invalid argument(s)"
  | .deviceNotSupported => "Not Supported by Device"
  | .noSuchDevice => "No Such Device"
  | .bufferOverflow => "Buffer Overflow"
  | .timeout => "Timeout"
  | .operationAborted => "Operation Aborted"
  | .notImplemented => "Not (yet) Implemented"
  | .targetReleased => "Target Released"
  | .rfTransmission => "RF Transmission Error"
  | .mifareAuthFailed => "Mifare Authentication Failed"
  | .soft => "Software Error"
  | .chip => "Device's Internal Chip Error"

/-- The constructor's name, as debug output shows it. -/
def name : Error → String
  | .io => "Io"
  | .invalidArgument => "InvalidArgument"
  | .deviceNotSupported => "DeviceNotSupported"
  | .noSuchDevice => "NoSuchDevice"
  | .bufferOverflow => "BufferOverflow"
  | .timeout => "Timeout"
  | .operationAborted => "OperationAborted"
  | .notImplemented => "NotImplemented"
  | .targetReleased => "TargetReleased"
  | .rfTransmission => "RfTransmission"
  | .mifareAuthFailed => "MifareAuthFailed"
  | .soft => "Soft"
  | .chip => "Chip"

instance : Named Error := ⟨all, name⟩

/-- The generic text for a code; a software error and a code without an error read as
unknown. -/
def messageForCode (code : Int) : String :=
  if code = 0 then "Success" else
  match ofCode? code with
  | some .soft => "Unknown error"
  | some e => e.text
  | none => "Unknown error"

end Error

/-- The kinds of failure an operating system reports that are told apart here. -/
inductive SystemFailure where
  | timedOut
  | wouldBlock
  | notFound
  | invalidInput
  | other
  deriving DecidableEq, Repr

/-- The failure of a name; all that is not told apart is of another kind. -/
def SystemFailure.ofName : String → SystemFailure
  | "TimedOut" => .timedOut
  | "WouldBlock" => .wouldBlock
  | "NotFound" => .notFound
  | "InvalidInput" => .invalidInput
  | _ => .other

/-- The library error for a failure of the operating system. -/
def SystemFailure.toError : SystemFailure → Error
  | .timedOut => .timeout
  | .wouldBlock => .timeout
  | .notFound => .noSuchDevice
  | .invalidInput => .invalidArgument
  | .other => .io

end NearField
