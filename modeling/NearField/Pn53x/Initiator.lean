import NearField.Checked
import NearField.Pn53x.Settings

/-!
# The chip as initiator

Selecting targets, polling for them, and exchanging bytes and bits with the one that is
selected.  The target found last is remembered until it is let go or is found to be gone.
-/

namespace NearField.Pn53x.Chip

variable {τ : Type} [ChipLink τ]

/-- Makes the chip an initiator. -/
def initiatorInit : Op (Chip τ) Unit := do
  writeRegister regControl bitInitiator
  modify fun c => { c with role := .initiator }

omit [ChipLink τ] in
/-- Remembers a target that was found. -/
def remember (t : Target) : Op (Chip τ) (Option Target) := do
  modify fun c => { c with current? := some t }
  return some t

omit [ChipLink τ] in
/-- The type byte of a modulation that can be selected. -/
def ensureSupported (m : Modulation) : Op (Chip τ) UInt8 := do
  match brty? m with
  | some brty => return brty
  | none =>
    Act.log .debug Log.chipTopic ("Unsupported modulation: " ++ m.text)
    throw .deviceNotSupported

/-- Selects one passive target; with infinite selection the wait has no end. -/
def selectPassive (m : Modulation) (initData : Bytes) : Op (Chip τ) (Option Target) := do
  let brty ← ensureSupported m
  let c ← get
  let timeout := if c.infiniteSelect then .infinite else c.commandTimeout
  match ← transceive (Command.listPassiveTarget 1 brty initData) timeout with
  | [] | 0 :: _ => return none
  | _ :: _ :: data => remember (← decodeTarget data m)
  | [_] => throw .io

/-! ## Polling -/

/-- The most types that the chip polls for by itself. -/
def autoPollTypes : Nat := 15

/-- The number of rounds that an endless poll is given.  The loop that polls has no such end: it
counts the rounds in 16 bits, and this is the number of them that can be counted.  `countedPoll`
keeps the count and stops out of range where it leaves 16 bits; `NearField.Proofs.Pn53x.Counting`
says which polls come that far, and that any other ends as `softwarePoll` does. -/
def endlessRounds : Nat := Nat.pow 2 16

/-- The number of rounds that a round byte stands for. -/
def rounds (pollNr : UInt8) : Nat := if pollNr = 0xFF then endlessRounds else pollNr.toNat

/-- Selects modulations one after the other until a target answers; silence is passed over. -/
def pollOnce : List Modulation → Op (Chip τ) (Option Target)
  | [] => pure none
  | m :: ms => do
    match ← (selectPassive m []).attempt with
    | .ok (some t) => return some t
    | .ok none | .error .timeout => pollOnce ms
    | .error e => throw e

/-- Polls round after round until a target answers. -/
def pollRounds (ms : List Modulation) : Nat → Op (Chip τ) (Option Target)
  | 0 => pure none
  | n + 1 => do
    match ← pollOnce ms with
    | some t => return some t
    | none => pollRounds ms n

/-- Polls by selecting, with infinite selection off; a failure to restore it wins over what was
found.  A poll without end that nothing answers ends here with no target once its rounds can not
be counted any more, where `countedPoll` stops. -/
def softwarePoll (ms : List Modulation) (pollNr : UInt8) : Op (Chip τ) (Option Target) := do
  let saved := (← get).infiniteSelect
  if saved then setBool .infiniteSelect false
  let found ← (pollRounds ms (rounds pollNr)).attempt
  if saved then setBool .infiniteSelect true
  Act.ofExcept found

theorem toNat_succ {round : UInt16} (h : round.toNat + 1 < UInt16.size) :
    (round + 1).toNat = round.toNat + 1 :=
  (UInt16.toNat_add round 1).trans (Nat.mod_eq_of_lt h)

/-- Goes rounds until a target answers, and counts them.  The count of an endless poll is of no
account, but it has to fit. -/
def countedRounds (ms : List Modulation) (pollNr : UInt8) (round : UInt16) :
    Checked (Chip τ) (Option Target) :=
  if pollNr = 0xFF ∨ round < pollNr.toUInt16 then do
    match ← Checked.lift (pollOnce ms) with
    | some t => return some t
    | none =>
      if h : round.toNat + 1 < UInt16.size then countedRounds ms pollNr (round + 1)
      else throw .outOfRange
  else return none
termination_by UInt16.size - round.toNat
decreasing_by
  have hround := toNat_succ h
  omega

/-- Goes rounds while unbounded selection is off. -/
def boundedly (a : Checked (Chip τ) (Option Target)) : Checked (Chip τ) (Option Target) := do
  let saved := (← get).infiniteSelect
  if saved then Checked.lift (setBool .infiniteSelect false)
  let found ← Checked.attempt a
  if saved then Checked.lift (setBool .infiniteSelect true)
  Act.ofExcept (found.mapError .error)

/-- Polls by selecting, and counts the rounds. -/
def countedPoll (ms : List Modulation) (pollNr : UInt8) : Checked (Chip τ) (Option Target) :=
  boundedly (countedRounds ms pollNr 0)

/-- How long the chip may poll by itself: 150 ms for each type and unit of the period in each
round, and half a second more.  The entries of the list are counted in 32 bits; no time is given
if a number on the way does not fit there. -/
def autoPollTimeout? (count : Nat) (pollNr period : UInt8) : Option Timeout :=
  if pollNr = 0xFF then some .infinite
  else do
    let types ← word? (pollNr.toNat * (UInt32.ofNat count).toNat)
    let units ← word? (types.toNat * period.toNat)
    let span ← word? (units.toNat * 150)
    return .millis (← word? (span.toNat + 500))

omit [ChipLink τ] in
/-- Reads the answer of a chip that polled by itself: for each target a type, a length and a
description. -/
def readAutoPoll : Bytes → Op (Chip τ) (Option Target)
  | [] | 0 :: _ => pure none
  | _ :: ty :: len :: rest => do
    let m ← Act.ofOption .deviceNotSupported (autoPollModulation? ty)
    Act.require (len.toNat ≤ rest.length) .io
    match rest.take len.toNat with
    | [] => throw .io
    | _ :: data => remember (← decodeTarget data m)
  | _ => throw .io

/-- Lets the chip poll by itself for some types. -/
def autoPollFor (types : Bytes) (pollNr period : UInt8) (timeout : Timeout) :
    Op (Chip τ) (Option Target) := do
  readAutoPoll (← transceive (inAutoPoll :: pollNr :: period :: types) timeout)

/-- Lets the chip poll by itself, for the first types that it has room for.  If there is no time
to give it, this ends with no target where `checkedAutoPoll` stops. -/
def autoPoll (ms : List Modulation) (pollNr period : UInt8) : Op (Chip τ) (Option Target) := do
  let types ← Act.ofOption .invalidArgument ((ms.take autoPollTypes).mapM autoPollType?)
  match autoPollTimeout? ms.length pollNr period with
  | some timeout => autoPollFor types pollNr period timeout
  | none => return none

/-- Lets the chip poll by itself, and stops out of range if there is no time to give it. -/
def checkedAutoPoll (ms : List Modulation) (pollNr period : UInt8) :
    Checked (Chip τ) (Option Target) := do
  let types ← Checked.lift
    (Act.ofOption .invalidArgument ((ms.take autoPollTypes).mapM autoPollType?))
  let timeout ← Act.ofOption .outOfRange (autoPollTimeout? ms.length pollNr period)
  Checked.lift (autoPollFor types pollNr period timeout)

/-- Polls for a target.  Only one member of the family polls by itself. -/
def pollTarget (ms : List Modulation) (pollNr period : UInt8) : Op (Chip τ) (Option Target) := do
  Act.require (!ms.isEmpty && pollNr != 0 && period != 0) .invalidArgument
  if (← get).kind ≠ .pn532 then softwarePoll ms pollNr else autoPoll ms pollNr period

/-- Polls for a target, and stops where the count of the rounds or the time of the poll leaves
its range. -/
def pollChecked (ms : List Modulation) (pollNr period : UInt8) :
    Checked (Chip τ) (Option Target) := do
  Checked.lift (Act.require (!ms.isEmpty && pollNr != 0 && period != 0) .invalidArgument)
  if (← get).kind ≠ .pn532 then countedPoll ms pollNr else checkedAutoPoll ms pollNr period

/-! ## Peer devices -/

/-- The most general bytes that an attribution request can carry. -/
def maxGeneralBytes : Nat := 47

omit [ChipLink τ] in
/-- Refuses general bytes that can not be sent. -/
def checkGeneralBytes (general : Bytes) : Op (Chip τ) Unit := do
  if maxGeneralBytes < general.length then
    Act.log .debug Log.chipTopic ("Too many general bytes: " ++ toString general.length)
    throw .invalidArgument

/-- The byte for a way of sharing the link. -/
def depModeByte? : DepMode → Option UInt8
  | .passive => some 0x00
  | .active => some 0x01
  | .unspecified => none

/-- The byte for a speed between peers. -/
def depBaudByte? : BaudRate → Option UInt8
  | .kbps106 => some 0x00
  | .kbps212 => some 0x01
  | .kbps424 => some 0x02
  | _ => none

/-- The polling request that passive mode needs above the lowest speed; its last byte is the
time slot. -/
def pollingRequest : Bytes := [0x00, 0xFF, 0xFF, 0x00, 0x0F]

/-- The command that attributes a peer: a byte announces which of the optional fields
follow. -/
def jumpForDep (modeByte baudByte : UInt8) (polls : Bool) (initiator : Option DepInfo) : Bytes :=
  let polling : UInt8 × Bytes := if polls then (0x01, pollingRequest) else (0x00, [])
  let identity : UInt8 × Bytes := match initiator with
    | some i => (0x02, i.nfcid3.toList)
    | none => (0x00, [])
  let general : UInt8 × Bytes := match initiator with
    | some i => if i.generalBytes.isEmpty then (0x00, []) else (0x04, i.generalBytes)
    | none => (0x00, [])
  [inJumpForDep, modeByte, baudByte, polling.1 ||| identity.1 ||| general.1]
    ++ polling.2 ++ identity.2 ++ general.2

/-- Selects a peer device. -/
def selectDep (mode : DepMode) (baudRate : BaudRate) (initiator : Option DepInfo)
    (timeout : Timeout) : Op (Chip τ) (Option Target) := do
  let modeByte ← Act.ofOption .invalidArgument (depModeByte? mode)
  let baudByte ← Act.ofOption .invalidArgument (depBaudByte? baudRate)
  if let some i := initiator then checkGeneralBytes i.generalBytes
  let polls := mode = .passive ∧ baudRate ≠ .kbps106
  let reply ← transceive (jumpForDep modeByte baudByte polls initiator) timeout
  remember (← decodeDepTarget (reply.drop 1) mode baudRate)

/-- Lets the selected target go. -/
def deselect : Op (Chip τ) Unit := do
  modify fun c => { c with current? := none }
  command [inDeselect, 0x00]

/-! ## Exchanges -/

/-- Exchanges bytes: wrapped by the chip with easy framing, raw without. -/
def transceiveBytes (tx : Bytes) (capacity : Nat) (timeout : Timeout) : Op (Chip τ) Bytes := do
  let front := if (← get).easyFraming then [inDataExchange, 0x01] else [inCommunicateThru]
  let reply ← transceive (front ++ tx) timeout
  fit capacity (reply.drop 1)

/-- The number of bits in an answer whose last byte holds `lastBits` valid bits, zero meaning
all. -/
def countBits (size : Nat) (lastBits : UInt8) : Nat :=
  if size = 0 then 0
  else if lastBits = 0 then size * 8
  else (size - 1) * 8 + lastBits.toNat

/-- Exchanges a raw frame of bits.  The chip is told how many bits of the last byte are valid,
and told again that all are afterwards; a failure of that wins over a failed exchange. -/
def transceiveBits (tx : BitFrame) (capacity : Nat) : Op (Chip τ) BitFrame := do
  Act.require ((← get).parity && tx.parity?.isNone) .notImplemented
  let size := (tx.bits + 7) / 8
  Act.require (size ≠ 0 && size ≤ tx.data.length) .invalidArgument
  let lastBits := UInt8.ofNat (tx.bits % 8)
  writeRegister regBitFraming (lastBits &&& maskLastBits)
  let exchanged ← (exchange (inCommunicateThru :: tx.data.take size)).attempt
  if lastBits ≠ 0 then writeRegister regBitFraming 0x00
  let reply ← Act.ofExcept exchanged
  let data ← fit capacity (reply.drop 1)
  let rxLastBits := (← readRegister regControl) &&& maskLastBits
  return ⟨data, countBits data.length rxLastBits, none⟩

/-- The command that starts a free running timer at the end of the next transmission. -/
def timerSetup : Bytes :=
  Command.writeRegisters [(regTimerMode, 0x80), (regTimerPrescaler, 0x00),
    (regTimerReloadHigh, 0xFF), (regTimerReloadLow, 0xFF)]

/-- The last two bytes of a reply as a number, high byte first. -/
def counter? (reply : Bytes) : Option Nat :=
  match reply.reverse with
  | lo :: hi :: _ => some (hi.toNat * 256 + lo.toNat)
  | _ => none

/-- Exchanges raw bytes and measures the time: the timer runs down from its largest value, and
the link's own latency is taken off. -/
def transceiveBytesTimed (tx : Bytes) (capacity : Nat) : Op (Chip τ) (Bytes × Nat) := do
  Act.require (!(← get).easyFraming) .notImplemented
  command timerSetup
  let reply ← exchange (inCommunicateThru :: tx)
  let data ← fit capacity (reply.drop 1)
  let counter ← exchange (Command.readRegisters [regTimerCounterHigh, regTimerCounterLow])
  let count ← Act.ofOption .io (counter? counter)
  return (data, 0xFFFF - count - (← get).timerCorrection.toNat)

/-- Succeeds if the target is the one selected and still answers. -/
def targetIsPresent (target : Option Target) : Op (Chip τ) Unit := do
  match (← get).current? with
  | none =>
    Act.log .debug Log.chipTopic "target_is_present(): no saved target"
    throw .invalidArgument
  | some current =>
    if target.any (· ≠ current) then
      Act.log .debug Log.chipTopic "target_is_present(): another target"
      throw .targetReleased
    let reply ← exchange Command.attentionRequest
    if reply.head? ≠ some 0x00 then
      modify fun c => { c with current? := none }
      throw .targetReleased

end NearField.Pn53x.Chip
