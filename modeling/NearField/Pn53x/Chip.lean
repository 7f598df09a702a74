import NearField.Pn53x.Description
import NearField.Pn53x.Link

/-!
# The chip layer

What the host remembers about a chip behind a link, and one exchange of command and reply.
`Chip.transceive` checks the status byte of replies that carry one; everything else the chip
does is built on it.
-/

namespace NearField.Pn53x

/-- The members of the chip family. -/
inductive ChipKind where
  | unknown
  | pn531
  | pn532
  | pn533
  deriving DecidableEq, Repr

/-- The name of a member. -/
def ChipKind.name : ChipKind → String
  | .unknown => "Unknown"
  | .pn531 => "Pn531"
  | .pn532 => "Pn532"
  | .pn533 => "Pn533"

/-- The part that the chip plays. -/
inductive Role where
  | idle
  | initiator
  | target
  deriving DecidableEq, Repr

/-- What the mode registers of transmitter and receiver should hold. -/
structure ModeRegisters where
  crc : Bool := true
  speed : UInt8 := 0
  framing : UInt8 := 0
  acceptInvalid : Bool := false
  acceptMultiple : Bool := false
  deriving DecidableEq, Repr

namespace ModeRegisters

/-- The transmitter's register: checksums in bit 7, the speed in bits 4 to 6, the framing
below. -/
def tx (r : ModeRegisters) : UInt8 :=
  (if r.crc then bitCrc else 0) ||| (r.speed <<< 4) ||| r.framing

/-- The receiver's register, which also holds what broken and further frames do. -/
def rx (r : ModeRegisters) : UInt8 :=
  (if r.crc then bitCrc else 0) ||| (r.speed <<< 4)
    ||| (if r.acceptInvalid then bitAcceptInvalid else 0)
    ||| (if r.acceptMultiple then bitAcceptMultiple else 0) ||| r.framing

/-- The command that writes both registers. -/
def command (r : ModeRegisters) : Bytes :=
  Command.writeRegisters [(regTxMode, r.tx), (regRxMode, r.rx)]

end ModeRegisters

/-- A chip behind a link of state `τ`, as the host knows it. -/
structure Chip (τ : Type) where
  link : τ
  kind : ChipKind := .unknown
  firmware? : Option String := none
  lastStatus : UInt8 := 0
  timerCorrection : UInt16 := 0
  role : Role := .idle
  current? : Option Target := none
  registers : ModeRegisters := ⟨true, 0, 0, false, false⟩
  parity : Bool := true
  infiniteSelect : Bool := true
  easyFraming : Bool := true
  autoIso14443_4 : Bool := true
  timeoutCommand : Int := -1
  timeoutAtr : Int := 103
  timeoutCom : Int := 52

/-- The largest reply of a normal frame. -/
def replyCapacity : Nat := 253

namespace Chip

variable {τ τ' α : Type}

/-- Exchanges the link below a chip. -/
def mapLink (f : τ → τ') (c : Chip τ) : Chip τ' := { c with link := f c.link }

/-- Runs an action of the link. -/
def onLink (a : Op τ α) : Op (Chip τ) α := a.zoom Chip.link fun l c => { c with link := l }

/-- How long commands may take unless their caller says otherwise. -/
def commandTimeout (c : Chip τ) : Timeout := .ofInt c.timeoutCommand

/-- Checks the status byte in front of a reply.  A failure is kept for its text; a released
target is forgotten. -/
def checkStatus (reply : Bytes) : Op (Chip τ) Unit := do
  match reply with
  | [] => throw .io
  | status :: _ =>
    if statusCode status ≠ 0 then
      modify fun c => { c with lastStatus := status }
      Act.log .debug Log.chipTopic ("Chip error: \"" ++ statusText status ++ "\" (0x"
        ++ Hex.compact [statusCode status] ++ ")")
      if statusError status = .targetReleased then
        modify fun c => { c with current? := none }
      throw (statusError status)

variable [ChipLink τ]

/-- Sends one command and returns the parameters of its reply; a status byte stays in front. -/
def transceive (cmd : Bytes) (timeout : Timeout) : Op (Chip τ) Bytes := do
  match cmd with
  | [] => throw .invalidArgument
  | code :: _ =>
    modify fun c => { c with lastStatus := 0 }
    Act.log .trace Log.chipTopic ("TX: " ++ Hex.spaced cmd)
    onLink (ChipLink.send cmd timeout)
    let reply ← onLink (ChipLink.receive replyCapacity code timeout)
    Act.log .trace Log.chipTopic ("RX: " ++ Hex.spaced reply)
    if hasStatusByte code then checkStatus reply
    return reply

/-- Sends one command within the usual time. -/
def exchange (cmd : Bytes) : Op (Chip τ) Bytes := do
  transceive cmd (← get).commandTimeout

/-- Sends one command within the usual time, for its effect only. -/
def command (cmd : Bytes) : Op (Chip τ) Unit := do
  let _ ← exchange cmd

/-- Reads the answer to the firmware question: which member of the family it is, and a text. -/
def identity? : Bytes → Option (ChipKind × String)
  | [ver, rev] => some (.pn531, text "PN531" ver rev)
  | [0x32, ver, rev, _] => some (.pn532, text "PN532" ver rev)
  | [0x33, ver, rev, _] => some (.pn533, text "PN533" ver rev)
  | _ => none
where
  /-- The name of the chip and its version. -/
  text (name : String) (ver rev : UInt8) : String :=
    name ++ " v" ++ toString ver.toNat ++ "." ++ toString rev.toNat

/-- Asks the chip what it is. -/
def identify : Op (Chip τ) Unit := do
  let reply ← exchange [getFirmwareVersion]
  match identity? reply with
  | none =>
    Act.log .error Log.chipTopic ("Unable to decode firmware version: " ++ Hex.spaced reply)
    throw .io
  | some (kind, text) =>
    Act.log .debug Log.chipTopic ("Firmware: " ++ text)
    modify fun c => { c with kind := kind, firmware? := some text }

/-- Writes the mode registers from what they should hold. -/
def writeModeRegisters : Op (Chip τ) Unit := do
  command (← get).registers.command

/-- Writes one register. -/
def writeRegister (r : UInt16) (value : UInt8) : Op (Chip τ) Unit :=
  command (Command.writeRegisters [(r, value)])

/-- Reads one register; the value is the last byte of the reply, since some chips put a status
in front. -/
def readRegister (r : UInt16) : Op (Chip τ) UInt8 := do
  let reply ← exchange (Command.readRegisters [r])
  Act.ofOption .io reply.getLast?

omit [ChipLink τ] in
/-- Refuses data that the caller has no room for. -/
def fit (capacity : Nat) (data : Bytes) : Op (Chip τ) Bytes := do
  if capacity < data.length then
    Act.log .error Log.chipTopic ("Buffer size is too short: " ++ toString capacity
      ++ " available(s), " ++ toString data.length ++ " needed")
    throw .bufferOverflow
  return data

end Chip

end NearField.Pn53x
