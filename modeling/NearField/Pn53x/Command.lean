import NearField.Error
import NearField.Modulation
import NearField.Utf8

/-!
# Commands of the PN53x

The command codes, registers and parameters that the host sends, and the codes the chip uses
for timeouts, status and target types.
-/

namespace NearField.Pn53x

/-! ## Command codes -/

def diagnose : UInt8 := 0x00
def getFirmwareVersion : UInt8 := 0x02
def readRegister : UInt8 := 0x06
def writeRegister : UInt8 := 0x08
def setParameters : UInt8 := 0x12
def powerDown : UInt8 := 0x16
def rfConfiguration : UInt8 := 0x32
def inDataExchange : UInt8 := 0x40
def inCommunicateThru : UInt8 := 0x42
def inDeselect : UInt8 := 0x44
def inListPassiveTarget : UInt8 := 0x4A
def inRelease : UInt8 := 0x52
def inJumpForDep : UInt8 := 0x56
def inAutoPoll : UInt8 := 0x60
def tgGetData : UInt8 := 0x86
def tgInitAsTarget : UInt8 := 0x8C
def tgSetData : UInt8 := 0x8E

/-- Commands whose reply starts with a status byte. -/
def hasStatusByte (command : UInt8) : Bool :=
  [inDataExchange, inCommunicateThru, inDeselect, inRelease, inJumpForDep, tgGetData, tgSetData,
    powerDown].contains command

/-! ## Registers -/

def regTxMode : UInt16 := 0x6302
def regRxMode : UInt16 := 0x6303
def regManualRcv : UInt16 := 0x630D
def regTimerMode : UInt16 := 0x632A
def regTimerPrescaler : UInt16 := 0x632B
def regTimerReloadHigh : UInt16 := 0x632C
def regTimerReloadLow : UInt16 := 0x632D
def regTimerCounterHigh : UInt16 := 0x632E
def regTimerCounterLow : UInt16 := 0x632F
def regStatus2 : UInt16 := 0x6338
def regControl : UInt16 := 0x633C
def regBitFraming : UInt16 := 0x633D

/-- The bit that turns checksums on in either mode register. -/
def bitCrc : UInt8 := 0x80

/-- The bit of the receive mode register that lets broken frames through. -/
def bitAcceptInvalid : UInt8 := 0x08

/-- The bit of the receive mode register that lets further frames through. -/
def bitAcceptMultiple : UInt8 := 0x04

/-- The bit that turns parity handling off. -/
def bitParityOff : UInt8 := 0x10

/-- The bit that turns the cipher of Classic tags on. -/
def bitCrypto1 : UInt8 := 0x08

/-- The bit that makes the chip an initiator. -/
def bitInitiator : UInt8 := 0x10

/-- The bits that count the valid bits of a last byte. -/
def maskLastBits : UInt8 := 0x07

/-- The two bytes of a register address, high byte first. -/
def addressBytes (r : UInt16) : Bytes := [(r >>> 8).toUInt8, r.toUInt8]

/-! ## Command bytes -/

namespace Command

/-- Switches the field. -/
def rfField (enable : Bool) : Bytes := [rfConfiguration, 0x01, if enable then 1 else 0]

/-- Sets how often a selection is retried: for ever or not at all. -/
def rfRetries (infinite : Bool) : Bytes :=
  [rfConfiguration, 0x05, 0xFF, 0x01, if infinite then 0xFF else 0x00]

/-- Sets the timeouts of the field as logarithmic codes. -/
def rfTimings (atrRes retryCom : UInt8) : Bytes := [rfConfiguration, 0x02, 0x00, atrRes, retryCom]

/-- Sets the flags of the chip's automatic replies. -/
def parameters (flags : UInt8) : Bytes := [setParameters, flags]

/-- Writes registers in order. -/
def writeRegisters (regs : List (UInt16 × UInt8)) : Bytes :=
  writeRegister :: regs.flatMap fun r => addressBytes r.1 ++ [r.2]

/-- Reads registers in order. -/
def readRegisters (regs : List UInt16) : Bytes := readRegister :: regs.flatMap addressBytes

/-- Looks for passive targets of one kind. -/
def listPassiveTarget (maxTargets brty : UInt8) (initData : Bytes) : Bytes :=
  inListPassiveTarget :: maxTargets :: brty :: initData

/-- Asks the chip to echo a text over the line. -/
def echo : Bytes := [diagnose, 0x00, 0x6C, 0x69, 0x62, 0x6E, 0x66, 0x63]

/-- What the chip answers to `echo`. -/
def echoReply : Bytes := [0x00, 0x6C, 0x69, 0x62, 0x6E, 0x66, 0x63]

/-- Asks whether the selected target is still there. -/
def attentionRequest : Bytes := [diagnose, 0x06]

end Command

/-! ## Timeout codes -/

/-- Lowers `code` while `ms` fits the threshold, which is halved each time. -/
def timeoutCodeFrom (ms : Int) : Nat → UInt8 → Nat → UInt8
  | 0, code, _ => code
  | fuel + 1, code, threshold =>
    if threshold ≤ 1 then code
    else if threshold < ms then code
    else timeoutCodeFrom ms fuel (code - 1) (threshold / 2)

/-- The logarithmic code of a timeout in milliseconds: zero for none, else at most 0x10, which
stands for 3.28 s; each step down halves the time. -/
def timeoutCode (ms : Int) : UInt8 := if ms ≤ 0 then 0x00 else timeoutCodeFrom ms 12 0x10 3280

/-! ## Target types -/

/-- The type byte with which a passive target of a modulation is listed. -/
def brty? (m : Modulation) : Option UInt8 :=
  match m.family, m.baudRate with
  | .iso14443a, .kbps106 => some 0x00
  | .felica, .kbps212 => some 0x01
  | .felica, .kbps424 => some 0x02
  | .iso14443b, .kbps106 => some 0x03
  | .jewel, .kbps106 => some 0x04
  | _, _ => none

/-- The type byte with which a modulation is polled. -/
def autoPollType? (m : Modulation) : Option UInt8 :=
  match m.family, m.baudRate with
  | .iso14443a, .kbps106 => some 0x10
  | .felica, .kbps212 => some 0x11
  | .felica, .kbps424 => some 0x12
  | .iso14443b, .kbps106 => some 0x23
  | .jewel, .kbps106 => some 0x04
  | _, _ => none

/-- The modulation that a poll reports by its type byte. -/
def autoPollModulation? (ty : UInt8) : Option Modulation :=
  match ty with
  | 0x00 | 0x10 | 0x20 => some ⟨.iso14443a, .kbps106⟩
  | 0x11 => some ⟨.felica, .kbps212⟩
  | 0x12 => some ⟨.felica, .kbps424⟩
  | 0x03 | 0x23 => some ⟨.iso14443b, .kbps106⟩
  | 0x04 => some ⟨.jewel, .kbps106⟩
  | _ => none

/-! ## Status codes -/

/-- The texts and errors of the status codes. -/
def statusTable : List (UInt8 × String × Error) :=
  [(0x00, "Success", .chip),
    (0x01, "Timeout", .timeout),
    (0x02, "CRC Error", .rfTransmission),
    (0x03, "Parity Error", .rfTransmission),
    (0x04, "Erroneous Bit Count", .rfTransmission),
    (0x05, "Framing Error", .rfTransmission),
    (0x06, "Bit-collision", .rfTransmission),
    (0x07, "Communication Buffer Too Small", .bufferOverflow),
    (0x09, "Buffer Overflow", .bufferOverflow),
    (0x0A, "RF Timeout", .rfTransmission),
    (0x0B, "RF Protocol Error", .rfTransmission),
    (0x0D, "Chip Overheating", .chip),
    (0x0E, "Internal Buffer overflow.", .bufferOverflow),
    (0x10, "Invalid Parameter", .invalidArgument),
    (0x12, "Unknown DEP Command", .rfTransmission),
    (0x13, "Invalid Received Frame", .rfTransmission),
    (0x14, "Mifare Authentication Error", .mifareAuthFailed),
    (0x18, "Not Supported by Secure Element", .invalidArgument),
    (0x23, "UID Check byte is wrong", .rfTransmission),
    (0x25, "Invalid DEP State", .rfTransmission),
    (0x26, "Operation Not Allowed", .invalidArgument),
    (0x27, "Command Not Acceptable", .invalidArgument),
    (0x29, "Target Released", .targetReleased),
    (0x2A, "Card ID Mismatch", .rfTransmission),
    (0x2B, "Card Discarded", .targetReleased),
    (0x2C, "NFCID3 Mismatch", .rfTransmission),
    (0x2D, "Over Current", .chip),
    (0x2E, "NAD Missing in DEP Frame", .rfTransmission)]

/-- The part of a status byte that tells how a command ended. -/
def statusCode (status : UInt8) : UInt8 := status &&& 0x3F

/-- The entry of a status byte; codes without an entry are unknown failures of the chip. -/
def statusEntry (status : UInt8) : String × Error :=
  match statusTable.find? fun e => e.1 == statusCode status with
  | some e => e.2
  | none => ("Unknown error", .chip)

/-- The text of a status byte. -/
def statusText (status : UInt8) : String := (statusEntry status).1

/-- The error for a status byte that reports a failure. -/
def statusError (status : UInt8) : Error := (statusEntry status).2

end NearField.Pn53x
