import NearField.Pn53x.Chip

/-!
# Settings of the chip

Switches and timeouts.  Some are kept by the host, some are written to registers, and a switch
of the mode registers or of parity is written only when it changes.
-/

namespace NearField.Pn53x.Chip

variable {τ : Type} [ChipLink τ]

/-- Changes what the mode registers should hold, and writes them. -/
def changeRegisters (f : ModeRegisters → ModeRegisters) : Op (Chip τ) Unit := do
  modify fun c => { c with registers := f c.registers }
  writeModeRegisters

/-- Forces a framing and a speed; nothing is written when both are in force. -/
def force (framing speed : UInt8) : Op (Chip τ) Unit := do
  let r := (← get).registers
  if (framing, speed) ≠ (r.framing, r.speed) then
    changeRegisters fun r => { r with framing := framing, speed := speed }

/-- Tells the chip which replies it should give by itself. -/
def writeParameters : Op (Chip τ) Unit := do
  command (Command.parameters (0x04 ||| if (← get).autoIso14443_4 then 0x10 else 0x00))

/-- Tells the chip the timeouts of the field. -/
def writeTimings : Op (Chip τ) Unit := do
  let c ← get
  command (Command.rfTimings (timeoutCode c.timeoutAtr) (timeoutCode c.timeoutCom))

/-- Turns a switch on or off. -/
def setBool (p : Property) (enable : Bool) : Op (Chip τ) Unit := do
  let c ← get
  match p with
  | .handleCrc =>
    if c.registers.crc ≠ enable then changeRegisters fun r => { r with crc := enable }
  | .handleParity =>
    if c.parity ≠ enable then
      writeRegister regManualRcv (if enable then 0x00 else bitParityOff)
      modify fun c => { c with parity := enable }
  | .easyFraming => modify fun c => { c with easyFraming := enable }
  | .activateField => command (Command.rfField enable)
  | .activateCrypto1 => writeRegister regStatus2 (if enable then bitCrypto1 else 0x00)
  | .infiniteSelect =>
    command (Command.rfRetries enable)
    modify fun c => { c with infiniteSelect := enable }
  | .acceptInvalidFrames =>
    if c.registers.acceptInvalid ≠ enable then
      changeRegisters fun r => { r with acceptInvalid := enable }
  | .acceptMultipleFrames =>
    if c.registers.acceptMultiple ≠ enable then
      changeRegisters fun r => { r with acceptMultiple := enable }
  | .autoIso14443_4 =>
    modify fun c => { c with autoIso14443_4 := enable }
    writeParameters
  | .forceIso14443a => if enable then force 0x00 c.registers.speed
  | .forceIso14443b => if enable then force 0x03 c.registers.speed
  | .forceSpeed106 => if enable then force c.registers.framing 0x00
  | .timeoutCommand | .timeoutAtr | .timeoutCom => throw .invalidArgument

/-- Sets a number; for a switch, any number but zero turns it on. -/
def setInt (p : Property) (value : Int) : Op (Chip τ) Unit := do
  match p with
  | .timeoutCommand => modify fun c => { c with timeoutCommand := value }
  | .timeoutAtr =>
    modify fun c => { c with timeoutAtr := value }
    writeTimings
  | .timeoutCom =>
    modify fun c => { c with timeoutCom := value }
    writeTimings
  | p => setBool p (value ≠ 0)

end NearField.Pn53x.Chip
