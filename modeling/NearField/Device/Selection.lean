import NearField.Device
import NearField.Iso14443

/-!
# Finding targets

The switches that a part in the exchange starts with, the modulations that a device supports,
and the search for targets: one, several that differ, or a peer that is waited for.
-/

namespace NearField

/-- The data that a selection of a family starts with unless other data is given. -/
def Family.initiatorData : Family → Bytes
  | .iso14443b => [0x00]
  | .iso14443bi => [0x01, 0x0B, 0x3F, 0x80]
  | .iso14443b2sr => [0x0B]
  | .iso14443b2ct => [0x9F, 0xFF, 0xFF]
  | .felica => [0x00, 0xFF, 0xFF, 0x01, 0x00]
  | _ => []

/-- The data that goes to the reader: an identifier of type A is cascaded. -/
def Family.wireData (f : Family) (data : Bytes) : Bytes :=
  if data.isEmpty then f.initiatorData
  else if f = .iso14443a then Iso14443.cascade data
  else data

namespace Device

/-- The switches that an initiator starts with: the field is cycled, selection is unbounded,
frames are strict. -/
def initiatorSwitches : List (Property × Bool) :=
  [(.activateField, false), (.activateField, true), (.infiniteSelect, true),
    (.autoIso14443_4, true), (.forceIso14443a, true), (.forceSpeed106, true),
    (.acceptInvalidFrames, false), (.acceptMultipleFrames, false)]

/-- The switches that a target starts with. -/
def targetSwitches : List (Property × Bool) :=
  [(.acceptInvalidFrames, false), (.acceptMultipleFrames, false), (.handleCrc, true),
    (.handleParity, true), (.autoIso14443_4, true), (.easyFraming, true),
    (.activateCrypto1, false), (.activateField, false)]

/-- How long one attempt to select a peer may take while one is waited for. -/
def peerPeriod : Timeout := .millis 300

/-- The number of attempts after which a wait without end is cut.  The loop that waits has no
such end and counts nothing, so it only ends where an attempt finds a peer or fails; an attempt
takes a microsecond at least, so no wait of a finite time is cut.  Compare
`Pn53x.Chip.endlessRounds`, which stands for a count that does run out:
`NearField.Proofs.Pn53x.Counting`. -/
def endlessAttempts : Nat := Nat.pow 2 64

variable {σ : Type} [Reader σ]

/-- Sets switches in order; the first failure ends it. -/
def setSwitches : List (Property × Bool) → Op (Device σ) Unit
  | [] => pure ()
  | (p, enable) :: rest => do
    setBool p enable
    setSwitches rest

/-- Prepares the device as an initiator. -/
def initiatorInit : Op (Device σ) Unit := do
  setSwitches initiatorSwitches
  dispatch Reader.initiatorInit

/-- Runs an action of the device beside the target it plays. -/
def besideTarget {α : Type} (a : Op (Device σ) α) : Op (Target × Device σ) α :=
  a.zoom Prod.snd fun d s => (s.1, d)

/-- Plays a target until the first command, which is returned. -/
def targetInit (capacity : Nat) (timeout : Timeout) : Op (Target × Device σ) Bytes := do
  besideTarget (setSwitches targetSwitches)
  let r ← ((Reader.targetInit capacity timeout).zoom
    (fun s : Target × Device σ => (s.1, s.2.backend))
    fun b s => (b.1, { s.2 with backend := b.2 })).attempt
  modify fun s => (s.1, { s.2 with lastError? := failure? r })
  Act.ofExcept r

/-- The families that are supported in a mode. -/
def families (mode : Mode) : Op (Device σ) (List Family) := dispatch (Reader.families mode)

/-- The speeds that are supported for a family in a mode. -/
def baudRates (mode : Mode) (f : Family) : Op (Device σ) (List BaudRate) :=
  dispatch (Reader.baudRates mode f)

/-- Checks a modulation against the tables of the reader. -/
def validate (mode : Mode) (m : Modulation) : Op (Device σ) Unit := do
  if !(← families mode).contains m.family then
    debug ("Unsupported modulation type: " ++ m.family.text)
    fail .invalidArgument
  if !(← baudRates mode m.family).contains m.baudRate then
    debug ("Unsupported baud rate " ++ m.baudRate.text ++ " for " ++ m.family.text)
    fail .invalidArgument

/-- Selects one passive target of a supported modulation. -/
def selectPassive (m : Modulation) (data : Bytes) : Op (Device σ) (Option Target) := do
  validate .initiator m
  dispatch (Reader.selectPassive m (m.family.wireData data))

/-- Lets the selected target go. -/
def deselect : Op (Device σ) Unit := dispatch Reader.deselect

/-- Selects targets that differ from those found, for some more at most.  It ends at a target
that was found before, at silence, at a failure, and after one target of a family that answers
every poll anew. -/
def collect (m : Modulation) : Nat → List Target → Op (Device σ) (List Target × Option Error)
  | 0, found => pure (found, none)
  | room + 1, found => do
    match ← (selectPassive m []).attempt with
    | .error e => return (found, some e)
    | .ok none => return (found, none)
    | .ok (some t) =>
      if found.contains t then return (found, none)
      if room = 0 || m.family.singleAttempt then return (found ++ [t], none)
      if let .error e ← deselect.attempt then
        debug ("Deselect failed while listing targets: " ++ e.text)
      collect m room (found ++ [t])

/-- Lists some distinct passive targets at most, while selection is bounded.  A failure counts
only if nothing was found before it. -/
def listPassive (m : Modulation) (max : Nat) : Op (Device σ) (List Target) := do
  if max = 0 then return []
  modify fun d => { d with lastError? := none }
  let unbounded := (← get).infiniteSelect
  setBool .infiniteSelect false
  let (found, failure) ← collect m max []
  if unbounded then setBool .infiniteSelect true
  match failure, found with
  | some e, [] => throw e
  | _, _ => return found

/-- Selects a peer. -/
def selectDep (mode : DepMode) (rate : BaudRate) (initiator : Option DepInfo) (timeout : Timeout) :
    Op (Device σ) (Option Target) :=
  dispatch (Reader.selectDep mode rate initiator timeout)

/-- Selects a peer again and again, for the given number of attempts at most.  `left` counts
the microseconds that remain; an attempt in vain takes at least one of them. -/
def awaitPeer (mode : DepMode) (rate : BaudRate) (initiator : Option DepInfo) :
    Nat → Option Nat → Op (Device σ) (Option Target)
  | 0, _ => pure none
  | attempts + 1, left => do
    let before := Reader.clock (← get).backend
    match ← (selectDep mode rate initiator peerPeriod).attempt with
    | .ok (some t) => return some t
    | .ok none | .error .timeout =>
      let passed := Nat.max 1 (Reader.clock (← get).backend - before)
      match left.map (· - passed) with
      | some 0 => return none
      | left => awaitPeer mode rate initiator attempts left
    | .error e => throw e

/-- Waits for a peer, while selection is unbounded: for one attempt unless a time is given. -/
def pollDep (mode : DepMode) (rate : BaudRate) (initiator : Option DepInfo) (timeout : Timeout) :
    Op (Device σ) (Option Target) := do
  let unbounded := (← get).infiniteSelect
  setBool .infiniteSelect true
  let budget := match timeout with
    | .default => some 0
    | .infinite => none
    | .millis ms => some (ms.toNat * 1000)
  let outcome ← (awaitPeer mode rate initiator endlessAttempts budget).attempt
  if !unbounded then setBool .infiniteSelect false
  Act.ofExcept outcome

end Device

end NearField
