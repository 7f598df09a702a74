import NearField.Frame
import NearField.Pn53x.Link
import NearField.Serial.Port

/-!
# ARYGON serial readers

The microcontroller of these readers speaks a small ASCII protocol and forwards frames to the
chip behind it when a selector byte stands in front.  Replies are read piece by piece, each
piece as soon as its length is known.  When the wait for a reply is aborted, the chip is woken
and checked before the abort is reported.
-/

namespace NearField.Arygon

/-- The selector of frames for the chip. -/
def chipSelector : UInt8 := 0x32

/-- The command that resets the chip: `0ar`. -/
def resetCommand : Bytes := [0x30, 0x61, 0x72]

/-- The command that asks for the reader's firmware: `0av`. -/
def firmwareCommand : Bytes := [0x30, 0x61, 0x76]

/-- The answer that reports no error: `FF000000` and a line end. -/
def noError : Bytes := [0x46, 0x46, 0x30, 0x30, 0x30, 0x30, 0x30, 0x30, 0x0D, 0x0A]

/-- The answer to an unknown selector: `FF060000` and a line end. -/
def unknownMode : Bytes := [0x46, 0x46, 0x30, 0x36, 0x30, 0x30, 0x30, 0x30, 0x0D, 0x0A]

/-- How long sending the reset may take. -/
def resetSendTimeout : Timeout := .millis 500

/-- How long the answer to the reset may take. -/
def resetReplyTimeout : Timeout := .millis 1000

/-- The longest firmware text that is trusted. -/
def maxFirmware : Nat := 8

/-- A line to a reader, and the signal that aborts waiting for its chip. -/
structure Link (σ : Type) where
  line : Watched σ
  deriving DecidableEq, Repr

namespace Link

variable {σ τ α : Type}

/-- Exchanges the port below a link. -/
def map (f : σ → τ) (l : Link σ) : Link τ := ⟨l.line.map f⟩

/-- Runs an action of the watched port. -/
def watching (a : Op (Watched σ) α) : Op (Link σ) α := a.zoom Link.line fun w _ => ⟨w⟩

/-- Runs an action of the port that no signal interrupts. -/
def onPort (a : Op σ α) : Op (Link σ) α :=
  a.zoom (·.line.hardware) fun p l => ⟨{ l.line with hardware := p }⟩

/-- Logs a failure of the link and fails. -/
def fail (e : Error) (message : String) : Op (Link σ) α := do
  Act.log .error Log.arygonTopic message
  throw e

/-- Runs an action; a failure is logged under a text of its own. -/
def reporting (message : String) (a : Op (Link σ) α) : Op (Link σ) α := do
  match ← a.attempt with
  | .ok x => return x
  | .error e => fail e message

variable [SerialPort σ]

/-- Reads bytes without watching the signal. -/
def read (n : Nat) (timeout : Timeout) : Op (Link σ) Bytes :=
  watching (SerialPort.receive n timeout false)

/-! ## The reader itself -/

/-- Resets the chip behind the reader; its answer tells that a reader is there.  The reset is
answered even if sending it reports a failure. -/
def reset : Op (Link σ) Unit := do
  (onPort (SerialPort.send resetCommand resetSendTimeout)).ignoring
  match ← (read 10 resetReplyTimeout).attempt with
  | .error e =>
    Act.log .debug Log.arygonTopic "No reply to 'reset TAMA' command"
    throw e
  | .ok reply =>
    if reply ≠ noError then
      Act.log .debug Log.arygonTopic "Reset TAMA failed - invalid response"
      throw .io

/-- Reads an answer to the firmware question: no error, a length of two digits, a text.  A text
in another form is not trusted. -/
def firmwareText (reply : Bytes) : Op (Link σ) String := do
  if reply.take 6 ≠ noError.take 6 then return "" else
  match Hex.pairValue? (reply.getD 6 0) (reply.getD 7 0) with
  | none => return ""
  | some length =>
    if maxFirmware < length.toNat then
      Act.log .warn Log.arygonTopic ("Firmware version data truncated (" ++ toString length.toNat
        ++ " > " ++ toString maxFirmware ++ ")")
      return ""
    else return Utf8.lossy ((reply.drop 8).take length.toNat)

/-- The reader's firmware, such as `V0.4.1`; empty if the reader does not say. -/
def firmware : Op (Link σ) String := do
  match ← (onPort (SerialPort.send firmwareCommand .default)).attempt with
  | .error _ =>
    Act.log .debug Log.arygonTopic "Unable to send ARYGON firmware command"
    return ""
  | .ok () =>
    match ← (read 16 .default).attempt with
    | .error _ =>
      Act.log .debug Log.arygonTopic "Unable to retrieve ARYGON firmware version"
      return ""
    | .ok reply => firmwareText reply

/-! ## Frames to and from the chip -/

/-- Checks the six bytes that follow a command.  What is left of an error answer is read
away. -/
def checkAck (timeout : Timeout) (reply : Bytes) : Op (Link σ) Unit := do
  if Frame.isAck reply then return ()
  else if reply = unknownMode.take Frame.ack.length then
    Act.log .error Log.arygonTopic "Bad frame format"
    (read 4 timeout).ignoring
    throw .io
  else fail .io "Unexpected PN53x reply!"

/-- Sends a command behind the selector, after old input is discarded, and waits for the
acknowledgement. -/
def send (data : Bytes) (timeout : Timeout) : Op (Link σ) Unit := do
  if data.isEmpty then fail .invalidArgument "Zero-size data"
  if Frame.maxData < data.length then
    fail .deviceNotSupported ("ARYGON device does not support more than " ++ toString Frame.maxData
      ++ " bytes as payload (requested: " ++ toString data.length ++ ")")
  onPort (SerialPort.flush false)
  let frame ← Frame.encodeOp data
  reporting "Unable to transmit data (TX)"
    (onPort (SerialPort.send (chipSelector :: frame) timeout))
  checkAck timeout (← reporting "Unable to read ACK" (read Frame.ack.length timeout))

/-- Checks the five bytes that begin a reply and gives the length of its parameters.  What is
left of an error frame is read away. -/
def checkHeader (capacity : Nat) (timeout : Timeout) (header : Bytes) : Op (Link σ) Nat := do
  match header with
  | [0x00, 0x00, 0xFF, len, check] =>
    if len = 0x01 ∧ check = 0xFF then
      (read 3 timeout).ignoring
      fail .io Frame.Fault.applicationError.message
    else if len = 0xFF ∧ check = 0xFF then
      fail .deviceNotSupported Frame.Fault.extended.message
    else if len.toNat + check.toNat ≠ 256 then fail .io Frame.Fault.lengthChecksum.message
    else if len < 2 then fail .io (Frame.Fault.invalidLength len).message
    else if capacity < len.toNat - 2 then
      fail .io ("Buffer too small (szDataLen: " ++ toString capacity ++ ", len: "
        ++ toString (len.toNat - 2) ++ ")")
    else return len.toNat - 2
  | _ => fail .io Frame.Fault.preamble.message

/-- Reads a piece of a reply. -/
def readPiece (what : String) (n : Nat) (timeout : Timeout) : Op (Link σ) Bytes :=
  reporting ("Unable to receive " ++ what ++ " (RX)") (read n timeout)

/-- Reads what follows the header: identifier and code, `n` parameters, checksum and
postamble. -/
def readContent (n : Nat) (command : UInt8) (timeout : Timeout) : Op (Link σ) Bytes := do
  let intro ← readPiece "TFI" 2 timeout
  let tfi := intro.getD 0 0
  let code := intro.getD 1 0
  if tfi ≠ Frame.chipTfi then fail .io (Frame.Fault.tfi tfi).message
  if code ≠ command + 1 then fail .io (Frame.Fault.command (command + 1) code).message
  let params ← if n = 0 then pure [] else readPiece "payload" n timeout
  let trailer ← readPiece "DCS" 2 timeout
  let expected := Checksum.dcs (tfi :: code :: params)
  let check := trailer.getD 0 0
  let post := trailer.getD 1 0
  if check ≠ expected then fail .io (Frame.Fault.dataChecksum expected check).message
  if post ≠ Frame.postamble then fail .io (Frame.Fault.postamble post).message
  return params

/-- Waits for a reply.  Only the wait for its first bytes can be aborted; the recovery runs
then, and whatever comes of it, the abort is reported. -/
def receiveWith (recovery : Op (Link σ) Unit) (capacity : Nat) (command : UInt8)
    (timeout : Timeout) : Op (Link σ) Bytes := do
  if capacity = 0 then fail .invalidArgument "Zero-size buffer"
  match ← (watching (SerialPort.receive 5 timeout true)).attempt with
  | .ok header =>
    let n ← checkHeader capacity timeout header
    readContent n command timeout
  | .error .operationAborted =>
    if let .error e ← recovery.attempt then
      Act.log .debug Log.arygonTopic ("Chip did not recover after abort: " ++ e.text)
    throw .operationAborted
  | .error e => fail e "Unable to receive data (RX)"

/-- Wakes a chip that was left waiting in a command, and asks it for an echo with the given way
to receive.  The reader does not answer the first frame. -/
def recoverWith (receive : Nat → UInt8 → Timeout → Op (Link σ) Bytes) : Op (Link σ) Unit := do
  let frame ← Frame.encodeOp Pn53x.Command.echo
  (onPort (SerialPort.send (chipSelector :: frame) .infinite)).ignoring
  Pn53x.echoTest send receive

/-- Waits for a reply; an aborted wait is followed by a recovery, whose own wait can be aborted
again, and so on for the given number of recoveries inside each other. -/
def receiveWithin : Nat → Nat → UInt8 → Timeout → Op (Link σ) Bytes
  | 0 => receiveWith (pure ())
  | n + 1 => receiveWith (recoverWith (receiveWithin n))

/-- More recoveries inside each other than abort requests can be made. -/
def maxRecoveries : Nat := Nat.pow 2 32

/-- Waits for the reply to a command. -/
def receive (capacity : Nat) (command : UInt8) (timeout : Timeout) : Op (Link σ) Bytes :=
  receiveWithin maxRecoveries capacity command timeout

/-- Releases the port. -/
def close (l : Link σ) : Link σ := l.map SerialPort.close

instance : Pn53x.ChipLink (Link σ) where
  send := send
  receive := receive
  signal? l := some l.line.signal
  raiseSignal l := ⟨l.line.raise⟩
  clock l := SerialPort.clock l.line.hardware
  abortCommand := modify fun l => ⟨l.line.raise⟩
  supportsPowerDown _ := false
  close := close

end Link

end NearField.Arygon
