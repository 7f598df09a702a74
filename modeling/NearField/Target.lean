import NearField.Modulation
import NearField.Utf8

/-!
# Targets

What a selection finds: the speed of the link and what the tag said about itself, which differs
by family.  A `BitFrame` is a raw exchange that need not end at a byte boundary.
-/

namespace NearField

/-- The first `n` bytes as a vector, if there are exactly `n`. -/
def vector? (n : Nat) (bs : Bytes) : Option (Vector UInt8 n) :=
  if h : bs.length = n then some ⟨bs.toArray, by simpa using h⟩ else none

/-- A tag of ISO/IEC 14443 type A; the answer to select is kept without its length byte. -/
structure Iso14443aInfo where
  atqa : Vector UInt8 2
  sak : UInt8
  uid : Bytes
  ats : Bytes
  deriving DecidableEq, Repr

/-- A FeliCa tag. -/
structure FelicaInfo where
  resCode : UInt8
  id : Vector UInt8 8
  pad : Vector UInt8 8
  sysCode : Option (Vector UInt8 2)
  deriving DecidableEq, Repr

/-- A tag of ISO/IEC 14443 type B. -/
structure Iso14443bInfo where
  pupi : Vector UInt8 4
  applicationData : Vector UInt8 4
  protocolInfo : Vector UInt8 3
  cardIdentifier : UInt8
  deriving DecidableEq, Repr

/-- A tag of type B prime. -/
structure Iso14443biInfo where
  div : Vector UInt8 4
  verLog : UInt8
  config : UInt8
  atr : Bytes
  deriving DecidableEq, Repr

/-- An SRx tag. -/
structure Iso14443b2srInfo where
  uid : Vector UInt8 8
  deriving DecidableEq, Repr

/-- A CTx tag. -/
structure Iso14443b2ctInfo where
  uid : Vector UInt8 4
  prodCode : UInt8
  fabCode : UInt8
  deriving DecidableEq, Repr

/-- An iClass tag. -/
structure Iso14443biClassInfo where
  uid : Vector UInt8 8
  deriving DecidableEq, Repr

/-- A Jewel tag. -/
structure JewelInfo where
  sensRes : Vector UInt8 2
  id : Vector UInt8 4
  deriving DecidableEq, Repr

/-- A printed barcode tag. -/
structure BarcodeInfo where
  data : Bytes
  deriving DecidableEq, Repr

/-- A peer device, as it introduces itself. -/
structure DepInfo where
  nfcid3 : Vector UInt8 10
  did : UInt8
  bs : UInt8
  br : UInt8
  timeout : UInt8
  pp : UInt8
  generalBytes : Bytes
  mode : DepMode
  deriving DecidableEq, Repr

/-- What a target says about itself. -/
inductive TargetInfo where
  | iso14443a (info : Iso14443aInfo)
  | felica (info : FelicaInfo)
  | iso14443b (info : Iso14443bInfo)
  | iso14443bi (info : Iso14443biInfo)
  | iso14443b2sr (info : Iso14443b2srInfo)
  | iso14443b2ct (info : Iso14443b2ctInfo)
  | iso14443biClass (info : Iso14443biClassInfo)
  | jewel (info : JewelInfo)
  | barcode (info : BarcodeInfo)
  | dep (info : DepInfo)
  deriving DecidableEq, Repr

/-- The family that a description belongs to. -/
def TargetInfo.family : TargetInfo → Family
  | .iso14443a _ => .iso14443a
  | .felica _ => .felica
  | .iso14443b _ => .iso14443b
  | .iso14443bi _ => .iso14443bi
  | .iso14443b2sr _ => .iso14443b2sr
  | .iso14443b2ct _ => .iso14443b2ct
  | .iso14443biClass _ => .iso14443biClass
  | .jewel _ => .jewel
  | .barcode _ => .barcode
  | .dep _ => .dep

/-- A selected or emulated target. -/
structure Target where
  baudRate : BaudRate
  info : TargetInfo
  deriving DecidableEq, Repr

namespace Target

/-- The modulation a target talks in. -/
def modulation (t : Target) : Modulation := ⟨t.info.family, t.baudRate⟩

/-- The identifier of a target, if its family has one. -/
def uid? (t : Target) : Option Bytes :=
  match t.info with
  | .iso14443a a => some a.uid
  | .felica f => some f.id.toList
  | .iso14443b b => some b.pupi.toList
  | .iso14443b2sr s => some s.uid.toList
  | .iso14443b2ct c => some c.uid.toList
  | .iso14443biClass i => some i.uid.toList
  | .jewel j => some j.id.toList
  | .dep d => some d.nfcid3.toList
  | .iso14443bi _ | .barcode _ => none

end Target

/-- A raw frame of `bits` valid bits; `parity?` holds one explicit parity bit per byte where
the device does not handle parity. -/
structure BitFrame where
  data : Bytes
  bits : Nat
  parity? : Option Bytes := none
  deriving DecidableEq, Repr

end NearField
