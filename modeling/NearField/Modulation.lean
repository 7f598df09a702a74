import NearField.Named

/-!
# Modulations

How a tag talks: its family and the speed of the link.  A reader plays one of two parts towards
it, the initiator or the target.
-/

namespace NearField

/-- The families of tags. -/
inductive Family where
  | iso14443a
  | jewel
  | barcode
  | iso14443b
  | iso14443bi
  | iso14443b2sr
  | iso14443b2ct
  | iso14443biClass
  | felica
  | dep
  deriving DecidableEq, Repr, Inhabited

namespace Family

/-- All families. -/
def all : List Family :=
  [.iso14443a, .jewel, .barcode, .iso14443b, .iso14443bi, .iso14443b2sr, .iso14443b2ct,
    .iso14443biClass, .felica, .dep]

/-- The short name that records use. -/
def name : Family → String
  | .iso14443a => "Iso14443a"
  | .jewel => "Jewel"
  | .barcode => "Barcode"
  | .iso14443b => "Iso14443b"
  | .iso14443bi => "Iso14443bi"
  | .iso14443b2sr => "Iso14443b2sr"
  | .iso14443b2ct => "Iso14443b2ct"
  | .iso14443biClass => "Iso14443biClass"
  | .felica => "Felica"
  | .dep => "Dep"

instance : Named Family := ⟨all, name⟩

/-- The full name for display. -/
def text : Family → String
  | .iso14443a => "ISO/IEC 14443A"
  | .jewel => "Innovision Jewel"
  | .barcode => "Thinfilm NFC Barcode"
  | .iso14443b => "ISO/IEC 14443-4B"
  | .iso14443bi => "ISO/IEC 14443-4B'"
  | .iso14443b2sr => "ISO/IEC 14443-2B ST SRx"
  | .iso14443b2ct => "ISO/IEC 14443-2B ASK CTx"
  | .iso14443biClass => "ISO/IEC 14443-2B-3B iClass (Picopass)"
  | .felica => "FeliCa"
  | .dep => "D.E.P."

/-- Families whose tags answer every poll anew, so that a second selection finds the same tag
again. -/
def singleAttempt : Family → Bool
  | .felica | .jewel | .barcode | .iso14443bi | .iso14443b2sr | .iso14443b2ct => true
  | _ => false

end Family

/-- The speeds of a link. -/
inductive BaudRate where
  | unspecified
  | kbps106
  | kbps212
  | kbps424
  | kbps847
  deriving DecidableEq, Repr, Inhabited

namespace BaudRate

/-- All speeds, slowest first. -/
def all : List BaudRate := [.unspecified, .kbps106, .kbps212, .kbps424, .kbps847]

/-- The short name that records use. -/
def name : BaudRate → String
  | .unspecified => "Undefined"
  | .kbps106 => "Baud106"
  | .kbps212 => "Baud212"
  | .kbps424 => "Baud424"
  | .kbps847 => "Baud847"

instance : Named BaudRate := ⟨all, name⟩

/-- The full name for display. -/
def text : BaudRate → String
  | .unspecified => "undefined baud rate"
  | .kbps106 => "106 kbps"
  | .kbps212 => "212 kbps"
  | .kbps424 => "424 kbps"
  | .kbps847 => "847 kbps"

/-- The place of a speed among the others. -/
def rank : BaudRate → Nat
  | .unspecified => 0
  | .kbps106 => 1
  | .kbps212 => 2
  | .kbps424 => 3
  | .kbps847 => 4

instance : Ord BaudRate := ⟨fun a b => compare a.rank b.rank⟩

end BaudRate

/-- A family at a speed. -/
structure Modulation where
  family : Family
  baudRate : BaudRate
  deriving DecidableEq, Repr, Inhabited

/-- The text of a modulation: the family, then the speed in brackets. -/
def Modulation.text (m : Modulation) : String := m.family.text ++ " (" ++ m.baudRate.text ++ ")"

/-- The two parts a reader can play. -/
inductive Mode where
  | initiator
  | target
  deriving DecidableEq, Repr

/-- The short name of a part. -/
def Mode.name : Mode → String
  | .initiator => "Initiator"
  | .target => "Target"

instance : Named Mode := ⟨[.initiator, .target], Mode.name⟩

/-- How two devices share a link. -/
inductive DepMode where
  | unspecified
  | passive
  | active
  deriving DecidableEq, Repr, Inhabited

namespace DepMode

/-- All modes. -/
def all : List DepMode := [.unspecified, .passive, .active]

/-- The short name that records use. -/
def name : DepMode → String
  | .unspecified => "Undefined"
  | .passive => "Passive"
  | .active => "Active"

instance : Named DepMode := ⟨all, name⟩

end DepMode

/-- The settings of a device: timeouts are numbers, all others are switches. -/
inductive Property where
  | timeoutCommand
  | timeoutAtr
  | timeoutCom
  | handleCrc
  | handleParity
  | activateField
  | activateCrypto1
  | infiniteSelect
  | acceptInvalidFrames
  | acceptMultipleFrames
  | autoIso14443_4
  | easyFraming
  | forceIso14443a
  | forceIso14443b
  | forceSpeed106
  deriving DecidableEq, Repr

namespace Property

/-- All settings. -/
def all : List Property :=
  [.timeoutCommand, .timeoutAtr, .timeoutCom, .handleCrc, .handleParity, .activateField,
    .activateCrypto1, .infiniteSelect, .acceptInvalidFrames, .acceptMultipleFrames,
    .autoIso14443_4, .easyFraming, .forceIso14443a, .forceIso14443b, .forceSpeed106]

/-- The short name that records use. -/
def name : Property → String
  | .timeoutCommand => "TimeoutCommand"
  | .timeoutAtr => "TimeoutAtr"
  | .timeoutCom => "TimeoutCom"
  | .handleCrc => "HandleCrc"
  | .handleParity => "HandleParity"
  | .activateField => "ActivateField"
  | .activateCrypto1 => "ActivateCrypto1"
  | .infiniteSelect => "InfiniteSelect"
  | .acceptInvalidFrames => "AcceptInvalidFrames"
  | .acceptMultipleFrames => "AcceptMultipleFrames"
  | .autoIso14443_4 => "AutoIso14443_4"
  | .easyFraming => "EasyFraming"
  | .forceIso14443a => "ForceIso14443a"
  | .forceIso14443b => "ForceIso14443b"
  | .forceSpeed106 => "ForceSpeed106"

instance : Named Property := ⟨all, name⟩

/-- The name for display. -/
def text : Property → String
  | .timeoutCommand => "NP_TIMEOUT_COMMAND"
  | .timeoutAtr => "NP_TIMEOUT_ATR"
  | .timeoutCom => "NP_TIMEOUT_COM"
  | .handleCrc => "NP_HANDLE_CRC"
  | .handleParity => "NP_HANDLE_PARITY"
  | .activateField => "NP_ACTIVATE_FIELD"
  | .activateCrypto1 => "NP_ACTIVATE_CRYPTO1"
  | .infiniteSelect => "NP_INFINITE_SELECT"
  | .acceptInvalidFrames => "NP_ACCEPT_INVALID_FRAMES"
  | .acceptMultipleFrames => "NP_ACCEPT_MULTIPLE_FRAMES"
  | .autoIso14443_4 => "NP_AUTO_ISO14443_4"
  | .easyFraming => "NP_EASY_FRAMING"
  | .forceIso14443a => "NP_FORCE_ISO14443_A"
  | .forceIso14443b => "NP_FORCE_ISO14443_B"
  | .forceSpeed106 => "NP_FORCE_SPEED_106"

end Property

end NearField
