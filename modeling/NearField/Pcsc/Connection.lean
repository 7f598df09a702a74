import NearField.Pcsc.Atr
import NearField.Pcsc.Channel
import NearField.Pcsc.Feitian
import NearField.Reader

/-!
# Connected readers

A reader behind a card channel.  Tags are what their answers to reset make of them, `FF CA`
commands ask for more, and every exchange is a plain command.  The last status code is kept,
for its text.
-/

namespace NearField.Pcsc

/-- A connected reader. -/
structure Connection (σ : Type) where
  channel : σ
  name : String
  feitian : Bool
  share : ShareMode := .direct
  protocols : Protocols := .t0
  lastCode : Scard := .success
  deriving DecidableEq, Repr

/-- The things that a reader can be asked for. -/
inductive DataItem where
  | uid
  | ats
  | sak
  | atqa
  deriving DecidableEq, Repr

namespace DataItem

/-- The parameter that asks for an item. -/
def parameter : DataItem → UInt8
  | .uid => 0x00
  | .ats => 0x01
  | .sak => 0x02
  | .atqa => 0x03

/-- The name of an item. -/
def label : DataItem → String
  | .uid => "UID"
  | .ats => "ATS"
  | .sak => "SAK"
  | .atqa => "ATQA"

/-- The bytes in front of an item that are not part of it: the length of an answer to
select. -/
def skip : DataItem → Nat
  | .ats => 1
  | _ => 0

/-- The shortest reply that holds an item. -/
def minReply (i : DataItem) : Nat := 2 + i.skip

/-- The longest item, with what stands in front of it. -/
def capacity : DataItem → Nat
  | .uid => 10
  | .ats => 254
  | .sak => 1
  | .atqa => 2

/-- The record of an item that is too long. -/
def tooLong : DataItem → String
  | .uid => "UID too big"
  | i => i.label ++ " length is wrong"

end DataItem

namespace Connection

variable {σ τ α : Type}

/-- A reader that was just connected to; its name tells whether its commands are recoded. -/
def new (channel : σ) (name : String) : Connection σ :=
  { channel := channel, name := name, feitian := Feitian.isFeitian name }

/-- Exchanges the channel below a reader. -/
def mapChannel (f : σ → τ) (c : Connection σ) : Connection τ :=
  { c with channel := f c.channel }

/-- Runs an action of the channel. -/
def onChannel (a : Act Scard σ α) : Act Scard (Connection σ) α :=
  a.zoom Connection.channel fun ch c => { c with channel := ch }

/-- The status code that a result stands for. -/
def codeOf : Except Scard α → Scard
  | .ok _ => .success
  | .error e => e

/-- Runs an action of the channel and keeps its status code. -/
def recorded (a : Act Scard σ α) : Op (Connection σ) (Except Scard α) := do
  let r ← (onChannel a).attempt
  modify fun c => { c with lastCode := codeOf r }
  return r

/-- Logs a debug record of the reader. -/
def debug (message : String) : Op (Connection σ) Unit := Act.log .debug Log.pcscTopic message

/-- Room for the reply to a question for an item. -/
def dataCapacity : Nat := 256 + 2

/-- The families that are told apart. -/
def families : List Family := [.iso14443a, .iso14443b]

/-- The speeds that are claimed. -/
def baudRates : List BaudRate := [.kbps106, .kbps424]

/-- The capacity that a channel is told: some readers leave the status word out of it. -/
def tellCapacity (feitian : Bool) (capacity : Nat) : Nat :=
  if feitian then (if capacity = 1 then 2 else capacity + 2) else capacity

variable [CardChannel σ]

/-! ## Calls of the channel -/

/-- Exchanges one command. -/
def transmit (apdu : Bytes) (capacity : Nat) : Op (Connection σ) Bytes := do
  let told := tellCapacity (← get).feitian capacity
  Feitian.logBytes "TX" apdu
  match ← recorded (CardChannel.transmit apdu told) with
  | .error _ =>
    debug "PCSC transmit failed"
    throw .io
  | .ok reply =>
    Feitian.logBytes "RX" reply
    return reply

/-- Asks for the card; a card that was reset counts as absent. -/
def status : Op (Connection σ) CardStatus := do
  match ← recorded CardChannel.status with
  | .ok s => return s
  | .error e =>
    if e = .resetCard then return ⟨false, []⟩
    debug "Get status failed"
    throw .io

/-- Renews the connection; a reset card is no failure. -/
def reconnect (share : ShareMode) (protocols : Protocols) (d : Disposition) :
    Op (Connection σ) Unit := do
  match ← recorded (CardChannel.reconnect share protocols d) with
  | .error e =>
    if e ≠ .resetCard then
      debug "Reconnect failed"
      throw .io
  | .ok () => pure ()
  modify fun c => { c with share := share, protocols := protocols }

/-- The card type that the reader reports, or unknown. -/
def iccType : Op (Connection σ) UInt8 := do
  match ← recorded (CardChannel.getAttribute .iccTypePerAtr) with
  | .ok (icc :: _) => return icc
  | _ => return Atr.iccUnknown

/-! ## Items -/

/-- Asks for an item: the reply without its status word and without what stands in front. -/
def getData (item : DataItem) : Op (Connection σ) Bytes := do
  let reply ← transmit [0xFF, 0xCA, item.parameter, 0x00, 0x00] dataCapacity
  if reply.length < item.minReply then
    debug ("Reader doesn't support request for " ++ item.label)
    throw .deviceNotSupported
  let data := (reply.take (reply.length - 2)).drop item.skip
  if item.capacity < data.length + item.skip then
    debug item.tooLong
    throw .soft
  BoundedCopy.copyOp (List.replicate data.length 0) data data.length

/-- The identifier of the card. -/
def getUid : Op (Connection σ) Bytes := getData .uid

/-- The card's answer to select without its length. -/
def getAts : Op (Connection σ) Bytes := getData .ats

/-- The card's select acknowledge byte. -/
def getSak : Op (Connection σ) UInt8 := do
  match ← getData .sak with
  | sak :: _ => return sak
  | [] => throw .deviceNotSupported

/-- The card's two answer to request bytes. -/
def getAtqa : Op (Connection σ) (Vector UInt8 2) := do
  Act.ofOption .deviceNotSupported (vector? 2 (← getData .atqa))

/-- Asks for an item that the reader may not support; it is then left at its default. -/
def orDefault (d : α) (a : Op (Connection σ) α) : Op (Connection σ) α := do
  match ← a.attempt with
  | .ok x => return x
  | .error .deviceNotSupported => return d
  | .error e => throw e

/-- The order in which two bytes were sent: swapped unless the first is `00` or `03`. -/
def orderAtqa (v : Vector UInt8 2) : Vector UInt8 2 :=
  let first := getElem v 0 Nat.zero_lt_two
  if first ≠ 0x00 ∧ first ≠ 0x03 then #v[getElem v 1 Nat.one_lt_two, first] else v

/-- What a Feitian reader itself tells about a card of type A. -/
def askInfoA (uid : Bytes) : Op (Connection σ) Iso14443aInfo := do
  let atqa ← orDefault (Vector.replicate 2 0) (orderAtqa <$> getAtqa)
  let sak ← orDefault 0 getSak
  let ats ← orDefault [] getAts
  return ⟨atqa, sak, uid, ats⟩

/-- The target that the reader's reports make for a family, if the card looks like one. -/
def makeTarget (icc : UInt8) (atr uid : Bytes) (f : Family) : Op (Connection σ) Target := do
  match f with
  | .iso14443a =>
    Act.require (Atr.iccMatches icc Atr.iccTypeA && Atr.isUidA uid && Atr.isTypeA atr)
      .invalidArgument
    let info ← if (← get).feitian then askInfoA uid else pure (Atr.infoA atr uid)
    return ⟨.kbps106, .iso14443a info⟩
  | .iso14443b =>
    Act.require (Atr.iccMatches icc Atr.iccTypeB && Atr.isUidB uid && Atr.isTypeB atr)
      .invalidArgument
    return ⟨.kbps106, .iso14443b (Atr.infoB atr)⟩
  | _ => throw .invalidArgument

/-! ## The table of operations -/

/-- The card that is present. -/
def presentCard : Op (Connection σ) CardStatus := do
  let s ← status
  if !s.present then
    debug "No target present"
    throw .noSuchDevice
  return s

/-- Selects the card that is present as one of a family. -/
def selectPassive (m : Modulation) (_ : Bytes) : Op (Connection σ) (Option Target) := do
  Act.require (baudRates.contains m.baudRate) .invalidArgument
  let s ← presentCard
  let icc ← iccType
  let uid := (← getUid.attempt).toOption.getD []
  match ← (makeTarget icc (s.atr.take Atr.maxSize) uid m.family).attempt with
  | .error _ =>
    debug "Type of target not supported"
    throw .deviceNotSupported
  | .ok t =>
    reconnect .shared .any .leaveCard
    return some t

/-- Exchanges bytes; a Feitian reader gets them recoded. -/
def transceiveBytes (tx : Bytes) (capacity : Nat) (_ : Timeout) : Op (Connection σ) Bytes := do
  if (← get).feitian then
    Feitian.logBytes "feitian reader pcsc apdu send" tx
    Feitian.route transmit tx capacity
  else transmit tx capacity

/-- Succeeds if a card is present and, where a target is given, looks like one of its
modulation. -/
def targetIsPresent (target : Option Target) : Op (Connection σ) Unit := do
  let s ← presentCard
  if let some expected := target then
    let made ← (makeTarget Atr.iccUnknown (s.atr.take Atr.maxSize) [] expected.info.family).attempt
    if !(made.toOption.any fun t => t.modulation = expected.modulation) then
      debug "Target doesn't meet requirements"
      throw .noSuchDevice

/-- Turns a switch on or off: most can only be left as they are.  Dropping the field resets the
card, and what comes of that shows later. -/
def setBool (p : Property) (enable : Bool) : Op (Connection σ) Unit := do
  let c ← get
  match p with
  | .infiniteSelect => pure ()
  | .autoIso14443_4 | .easyFraming => Act.require (enable || c.feitian) .deviceNotSupported
  | .forceIso14443a | .handleCrc | .handleParity | .forceSpeed106 =>
    Act.require enable .deviceNotSupported
  | .acceptInvalidFrames | .acceptMultipleFrames => Act.require (!enable) .deviceNotSupported
  | .activateField => if !enable then (reconnect c.share c.protocols .resetCard).ignoring
  | _ => throw .deviceNotSupported

/-- The text of an attribute up to a zero byte; an empty one is none. -/
def attributeText (a : Attribute) : Op (Connection σ) (Option String) := do
  match ← (onChannel (CardChannel.getAttribute a)).attempt with
  | .error _ => return none
  | .ok raw =>
    let text := raw.takeWhile (· ≠ 0)
    return if text.isEmpty then none else some (Utf8.lossy text)

/-- The text about a reader: model, version, vendor and serial number. -/
def information : Op (Connection σ) String := do
  let model ← attributeText .vendorName
  let vendor ← attributeText .vendorIfdType
  let version ← attributeText .vendorIfdVersion
  let serial ← attributeText .vendorIfdSerialNo
  return model.getD "unknown model" ++ (version.map (" " ++ ·)).getD ""
    ++ " (" ++ vendor.getD "unknown vendor" ++ ")"
    ++ (serial.map ("\nserial: " ++ ·)).getD "" ++ "\n"

/-- A table that exists for initiators only. -/
def forInitiator (xs : List α) : Mode → Op (Connection σ) (List α)
  | .target => throw .invalidArgument
  | .initiator => pure xs

omit [CardChannel σ] in
/-- The text of the last status code, if it reports a failure that the error can stand for. -/
def describe? (c : Connection σ) (e : Error) : Option String :=
  if c.lastCode = .success then none
  else if e = .io ∨ e = c.lastCode.toError then some c.lastCode.text
  else none

/-- Drops the connection. -/
def close : Act Empty (Connection σ) Unit := do
  Act.log .debug Log.pcscTopic ("Closing " ++ (← get).name)
  modify (mapChannel (CardChannel.disconnect .leaveCard))

instance : Reader (Connection σ) where
  describe? := describe?
  initiatorInit := pure ()
  selectPassive := selectPassive
  transceiveBytes := transceiveBytes
  targetIsPresent := targetIsPresent
  setBool := setBool
  families mode := forInitiator families mode
  baudRates mode _ := forInitiator baudRates mode
  information := information
  close := close

end Connection

end NearField.Pcsc
