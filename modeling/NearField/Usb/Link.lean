import NearField.Frame
import NearField.Pn53x.Link
import NearField.Usb.Pipe

/-!
# PN53x dongles

Frames travel as single bulk transfers.  A reply is awaited in short slices, so that an abort
is noticed at the end of a slice.  A wait for a reply that is aborted or runs out of time sends
an acknowledgement, which makes the chip drop its command.
-/

namespace NearField.Usb

/-- The dongles that are told apart. -/
inductive Model where
  | nxpPn531
  | sonyPn531
  | nxpPn533
  | askLogo
  | scmScl3711
  | scmScl3712
  | sonyRcs360
  deriving DecidableEq, Repr

namespace Model

/-- All dongles. -/
def all : List Model :=
  [.nxpPn531, .sonyPn531, .nxpPn533, .askLogo, .scmScl3711, .scmScl3712, .sonyRcs360]

/-- The short name that records use. -/
def name : Model → String
  | .nxpPn531 => "NxpPn531"
  | .sonyPn531 => "SonyPn531"
  | .nxpPn533 => "NxpPn533"
  | .askLogo => "AskLogo"
  | .scmScl3711 => "ScmScl3711"
  | .scmScl3712 => "ScmScl3712"
  | .sonyRcs360 => "SonyRcs360"

instance : Named Model := ⟨all, name⟩

/-- The cycles by which the timer of a dongle runs over. -/
def timerCorrection : Model → UInt16
  | .askLogo => 50
  | _ => 48

end Model

/-- A dongle as it announces itself on the bus. -/
structure Dongle where
  vendor : UInt16
  product : UInt16
  model : Model
  title : String
  deriving DecidableEq, Repr

/-- The dongles that are supported. -/
def dongles : List Dongle :=
  [⟨0x04CC, 0x0531, .nxpPn531, "Philips / PN531"⟩,
    ⟨0x04CC, 0x2533, .nxpPn533, "NXP / PN533"⟩,
    ⟨0x04E6, 0x5591, .scmScl3711, "SCM Micro / SCL3711-NFC&RW"⟩,
    ⟨0x04E6, 0x5594, .scmScl3712, "SCM Micro / SCL3712-NFC&RW"⟩,
    ⟨0x054C, 0x0193, .sonyPn531, "Sony / PN531"⟩,
    ⟨0x1FD3, 0x0608, .askLogo, "ASK / LoGO"⟩,
    ⟨0x054C, 0x02E1, .sonyRcs360, "Sony / FeliCa S360 [PaSoRi]"⟩]

/-- The supported dongle of a vendor and a product number. -/
def dongle? (vendor product : UInt16) : Option Dongle :=
  dongles.find? fun d => d.vendor == vendor && d.product == product

/-- The largest transfer that a normal frame can take. -/
def transferSize : Nat := 255 + Frame.overhead

/-- The length of a slice of waiting in microseconds. -/
def readSlice : Nat := 250000

/-- The number of slices after which a wait without end is cut. -/
def endlessSlices : Nat := Nat.pow 2 64

/-- A pipe to a dongle, and the signal that aborts waiting for its chip. -/
structure Link (σ : Type) where
  pipe : Watched σ
  model : Model
  deriving DecidableEq, Repr

namespace Link

variable {σ α : Type}

/-- Runs an action of the watched pipe. -/
def watching (a : Op (Watched σ) α) : Op (Link σ) α :=
  a.zoom Link.pipe fun w l => { l with pipe := w }

/-- Runs an action of the pipe that no signal interrupts. -/
def onPipe (a : Op σ α) : Op (Link σ) α :=
  a.zoom (·.pipe.hardware) fun p l => { l with pipe := { l.pipe with hardware := p } }

/-- Logs a failure of the link and fails. -/
def fail (e : Error) (message : String) : Op (Link σ) α := do
  Act.log .error Log.usbTopic message
  throw e

variable [BulkPipe σ]

/-- Sends an acknowledgement, which cancels the command that the chip runs. -/
def ack : Op (Link σ) Unit := do
  let _ ← onPipe (BulkPipe.write Frame.ack Timeout.defaultMillis)

/-- Reads one transfer in slices, for the given number of slices at most.  `left` counts the
microseconds that remain; a silent slice takes at least one of them.  A pending abort is
consumed at the end of a silent slice. -/
def readSlices : Nat → Option Nat → Op (Watched σ) Bytes
  | 0, _ => throw .timeout
  | slices + 1, left => do
    if left = some 0 then throw .timeout
    let before := BulkPipe.clock (← get).hardware
    match ← (BulkPipe.read transferSize (min (left.getD readSlice) readSlice)).attempt with
    | .error .timeout =>
      let w ← get
      set { w with signal := w.signal.take.2 }
      if w.signal.take.1 then throw .operationAborted
      let passed := max 1 (BulkPipe.clock w.hardware - before)
      readSlices slices (left.map (· - passed))
    | found => Act.ofExcept found

/-- Reads one transfer within a timeout. -/
def readTransfer (timeout : Timeout) : Op (Link σ) Bytes :=
  watching <|
    match timeout.duration? with
    | some ms => readSlices (ms * 1000 + 1) (some (ms * 1000))
    | none => readSlices endlessSlices none

/-- Sends a command and waits for the acknowledgement. -/
def send (data : Bytes) (timeout : Timeout) : Op (Link σ) Unit := do
  let frame ← Frame.encodeOp data
  if let .error e ← (onPipe (BulkPipe.write frame (timeout.duration?.getD 0))).attempt then
    fail e ("Unable to write to USB (" ++ e.text ++ ")")
  match ← (readTransfer timeout).attempt with
  | .error e => fail e ("Unable to read ACK (" ++ e.text ++ ")")
  | .ok reply =>
    if !Frame.isAck reply then fail .io ("Unexpected PN53x reply! " ++ Hex.spaced reply)

/-- Cancels the chip's command; a failure is only logged. -/
def cancel : Op (Link σ) Unit := do
  if let .error e ← ack.attempt then
    Act.log .debug Log.usbTopic ("Unable to send ACK (" ++ e.text ++ ")")

/-- Waits for the reply to a command; an aborted or silent wait cancels the command. -/
def receive (capacity : Nat) (command : UInt8) (timeout : Timeout) : Op (Link σ) Bytes := do
  match ← (readTransfer timeout).attempt with
  | .error e =>
    if e = .operationAborted ∨ e = .timeout then cancel
    throw e
  | .ok transfer =>
    let params ← Frame.decodeOp transfer command
    if capacity < params.length then
      fail .io ("Buffer too small (szDataLen: " ++ toString capacity ++ ", len: "
        ++ toString params.length ++ ")")
    return params

instance : Pn53x.ChipLink (Link σ) where
  send := send
  receive := receive
  signal? l := some l.pipe.signal
  raiseSignal l := { l with pipe := l.pipe.raise }
  clock l := BulkPipe.clock l.pipe.hardware
  abortCommand := modify fun l => { l with pipe := l.pipe.raise }
  close l := { l with pipe := l.pipe.map BulkPipe.close }

end Link

end NearField.Usb
