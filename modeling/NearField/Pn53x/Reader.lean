import NearField.Pn53x.Emulation
import NearField.Reader

/-!
# A chip as a reader

The whole table of operations for a chip behind any link.
-/

namespace NearField.Pn53x.Chip

variable {τ : Type}

/-- The text of the status that the last command ended with, if it reports a failure. -/
def describe? (c : Chip τ) : Option String :=
  if statusCode c.lastStatus = 0 then none else some (statusText c.lastStatus)

/-- The families that a member of the family supports in a mode. -/
def families : Mode → ChipKind → List Family
  | .initiator, .pn531 => [.iso14443a, .felica, .dep]
  | .initiator, _ => [.iso14443a, .felica, .iso14443b, .jewel, .dep]
  | .target, _ => [.iso14443a, .felica, .dep]

/-- The speeds supported for a family in a mode. -/
def baudRates : Mode → Family → Except Error (List BaudRate)
  | _, .iso14443a => .ok [.kbps106]
  | _, .felica => .ok [.kbps424, .kbps212]
  | _, .dep => .ok [.kbps424, .kbps212, .kbps106]
  | .initiator, .iso14443b | .initiator, .jewel => .ok [.kbps106]
  | _, _ => .error .invalidArgument

/-- The line about one mode: each family with its speeds. -/
def modeLine (label : String) (mode : Mode) (kind : ChipKind) : String :=
  let entry (f : Family) : String :=
    let rates := (baudRates mode f).toOption.getD []
    f.text ++ " (" ++ ", ".intercalate (rates.map BaudRate.text) ++ ")"
  label ++ " mode modulations: " ++ ", ".intercalate ((families mode kind).map entry) ++ "\n"

/-- The text about a chip: its firmware, then one line for each mode. -/
def information (c : Chip τ) : String :=
  "chip: " ++ c.firmware?.getD "PN53x" ++ "\n" ++ modeLine "initiator" .initiator c.kind
    ++ modeLine "target" .target c.kind

variable [ChipLink τ]

/-- Lets all targets go; an initiator also switches its field off. -/
def idle : Op (Chip τ) Unit := do
  match (← get).role with
  | .initiator =>
    command [inRelease, 0x00]
    command (Command.rfField false)
  | .target => command [inRelease, 0x00]
  | .idle => pure ()
  modify fun c => { c with current? := none, role := .idle }

/-- Puts the chip to sleep where the link allows it; any outside event wakes it. -/
def powerDown : Op (Chip τ) Unit := do
  Act.require (ChipLink.supportsPowerDown (← get).link) .deviceNotSupported
  command [Pn53x.powerDown, 0xF0]
  modify fun c => { c with role := .idle }

/-- Lets all targets go and releases the link, whether or not the chip answers. -/
def close : Act Empty (Chip τ) Unit := do
  if let .error e ← idle.attempt then
    Act.log .debug Log.chipTopic ("Unable to idle chip on close: " ++ e.text)
  modify fun c => { c with link := ChipLink.close c.link }

instance : Reader (Chip τ) where
  describe? c _ := c.describe?
  initiatorInit := initiatorInit
  selectPassive := selectPassive
  pollTarget := pollTarget
  pollChecked := pollChecked
  selectDep := selectDep
  deselect := deselect
  transceiveBytes := transceiveBytes
  transceiveBits := transceiveBits
  transceiveBytesTimed := transceiveBytesTimed
  targetIsPresent := targetIsPresent
  targetInit := targetInit
  targetSendBytes := targetSendBytes
  targetReceiveBytes := targetReceiveBytes
  setBool := setBool
  setInt := setInt
  families mode := do return families mode (← get).kind
  baudRates mode f := Act.ofExcept (baudRates mode f)
  information := do return (← get).information
  signal? c := ChipLink.signal? c.link
  clock c := ChipLink.clock c.link
  raiseSignal := mapLink ChipLink.raiseSignal
  abortCommand := onLink ChipLink.abortCommand
  idle := idle
  powerDown := powerDown
  close := close

end NearField.Pn53x.Chip
