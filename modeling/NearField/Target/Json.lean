import NearField.Target

/-!
# Targets as JSON

A target is written as an object; what it says about itself is an object with the family's name
as its single key.  Bytes are arrays of numbers, enumerations are names, an absent option is
null.  `Target.ofJson?` reads what `Target.toJson` writes; it ignores unknown fields, and it
accepts the fields of a record as an array in their order and a name as an object that holds
null.
-/

namespace NearField

/-- A JSON value; numbers that are not integers are kept apart without their value. -/
inductive Json where
  | null
  | bool (value : Bool)
  | integer (value : Int)
  | fraction
  | string (value : String)
  | array (items : List Json)
  | object (members : List (String × Json))
  deriving Repr, Inhabited

namespace Json

/-- The value of a member. -/
def member? (key : String) (members : List (String × Json)) : Option Json :=
  (members.find? fun m => m.1 == key).map (·.2)

/-- The values of a record's fields in order; a field can be absent in an object, not in an
array. -/
def fields? (names : List String) : Json → Option (List (Option Json))
  | .object members => some (names.map (member? · members))
  | .array items => if items.length = names.length then some (items.map some) else none
  | _ => none

/-- Writes a byte. -/
def ofByte (b : UInt8) : Json := .integer b.toNat

/-- Reads a byte. -/
def byte? : Json → Option UInt8
  | .integer n => if 0 ≤ n ∧ n < 256 then some (UInt8.ofNat n.toNat) else none
  | _ => none

/-- Writes bytes. -/
def ofBytes (bs : Bytes) : Json := .array (bs.map ofByte)

/-- Reads bytes. -/
def bytes? : Json → Option Bytes
  | .array items => items.mapM byte?
  | _ => none

/-- Writes a fixed number of bytes. -/
def ofVector {n : Nat} (v : Vector UInt8 n) : Json := ofBytes v.toList

/-- Reads a fixed number of bytes. -/
def vector? (n : Nat) (j : Json) : Option (Vector UInt8 n) := j.bytes?.bind (NearField.vector? n)

/-- Reads a name of an enumeration. -/
def name? : Json → Option String
  | .string s => some s
  | .object [(s, .null)] => some s
  | _ => none

/-- Writes an option. -/
def ofOption {α : Type} (write : α → Json) : Option α → Json
  | none => .null
  | some x => write x

/-- Reads an option; an absent field is an absent value. -/
def option? {α : Type} (read : Json → Option α) : Option Json → Option (Option α)
  | none => some none
  | some .null => some none
  | some j => (read j).map some

end Json

namespace BaudRate

/-- Writes a speed. -/
def toJson (b : BaudRate) : Json := .string b.name

/-- Reads a speed. -/
def ofJson? (j : Json) : Option BaudRate := j.name?.bind Named.ofName?

end BaudRate

namespace Family

/-- Writes a family. -/
def toJson (f : Family) : Json := .string f.name

/-- Reads a family. -/
def ofJson? (j : Json) : Option Family := j.name?.bind Named.ofName?

end Family

namespace DepMode

/-- Writes a mode. -/
def toJson (m : DepMode) : Json := .string m.name

/-- Reads a mode. -/
def ofJson? (j : Json) : Option DepMode := j.name?.bind Named.ofName?

end DepMode

namespace Modulation

/-- The fields of a modulation. -/
def fieldNames : List String := ["modulation_type", "baud_rate"]

/-- Writes a modulation. -/
def toJson (m : Modulation) : Json :=
  .object [("modulation_type", m.family.toJson), ("baud_rate", m.baudRate.toJson)]

/-- Reads a modulation. -/
def ofJson? (j : Json) : Option Modulation := do
  match ← j.fields? fieldNames with
  | [some f, some b] => return ⟨← Family.ofJson? f, ← BaudRate.ofJson? b⟩
  | _ => none

end Modulation

namespace Iso14443aInfo

/-- Writes the description. -/
def toJson (i : Iso14443aInfo) : Json :=
  .object [("atqa", .ofVector i.atqa), ("sak", .ofByte i.sak), ("uid", .ofBytes i.uid),
    ("ats", .ofBytes i.ats)]

/-- Reads the description. -/
def ofJson? (j : Json) : Option Iso14443aInfo := do
  match ← j.fields? ["atqa", "sak", "uid", "ats"] with
  | [some atqa, some sak, some uid, some ats] =>
    return ⟨← atqa.vector? 2, ← sak.byte?, ← uid.bytes?, ← ats.bytes?⟩
  | _ => none

end Iso14443aInfo

namespace FelicaInfo

/-- Writes the description. -/
def toJson (i : FelicaInfo) : Json :=
  .object [("res_code", .ofByte i.resCode), ("id", .ofVector i.id), ("pad", .ofVector i.pad),
    ("sys_code", .ofOption .ofVector i.sysCode)]

/-- Reads the description. -/
def ofJson? (j : Json) : Option FelicaInfo := do
  match ← j.fields? ["res_code", "id", "pad", "sys_code"] with
  | [some resCode, some id, some pad, sysCode] =>
    return ⟨← resCode.byte?, ← id.vector? 8, ← pad.vector? 8, ← Json.option? (·.vector? 2) sysCode⟩
  | _ => none

end FelicaInfo

namespace Iso14443bInfo

/-- Writes the description. -/
def toJson (i : Iso14443bInfo) : Json :=
  .object [("pupi", .ofVector i.pupi), ("application_data", .ofVector i.applicationData),
    ("protocol_info", .ofVector i.protocolInfo), ("card_identifier", .ofByte i.cardIdentifier)]

/-- Reads the description. -/
def ofJson? (j : Json) : Option Iso14443bInfo := do
  match ← j.fields? ["pupi", "application_data", "protocol_info", "card_identifier"] with
  | [some pupi, some app, some proto, some card] =>
    return ⟨← pupi.vector? 4, ← app.vector? 4, ← proto.vector? 3, ← card.byte?⟩
  | _ => none

end Iso14443bInfo

namespace Iso14443biInfo

/-- Writes the description. -/
def toJson (i : Iso14443biInfo) : Json :=
  .object [("div", .ofVector i.div), ("ver_log", .ofByte i.verLog), ("config", .ofByte i.config),
    ("atr", .ofBytes i.atr)]

/-- Reads the description. -/
def ofJson? (j : Json) : Option Iso14443biInfo := do
  match ← j.fields? ["div", "ver_log", "config", "atr"] with
  | [some div, some verLog, some config, some atr] =>
    return ⟨← div.vector? 4, ← verLog.byte?, ← config.byte?, ← atr.bytes?⟩
  | _ => none

end Iso14443biInfo

namespace Iso14443b2srInfo

/-- Writes the description. -/
def toJson (i : Iso14443b2srInfo) : Json := .object [("uid", .ofVector i.uid)]

/-- Reads the description. -/
def ofJson? (j : Json) : Option Iso14443b2srInfo := do
  match ← j.fields? ["uid"] with
  | [some uid] => return ⟨← uid.vector? 8⟩
  | _ => none

end Iso14443b2srInfo

namespace Iso14443b2ctInfo

/-- Writes the description. -/
def toJson (i : Iso14443b2ctInfo) : Json :=
  .object [("uid", .ofVector i.uid), ("prod_code", .ofByte i.prodCode),
    ("fab_code", .ofByte i.fabCode)]

/-- Reads the description. -/
def ofJson? (j : Json) : Option Iso14443b2ctInfo := do
  match ← j.fields? ["uid", "prod_code", "fab_code"] with
  | [some uid, some prod, some fab] => return ⟨← uid.vector? 4, ← prod.byte?, ← fab.byte?⟩
  | _ => none

end Iso14443b2ctInfo

namespace Iso14443biClassInfo

/-- Writes the description. -/
def toJson (i : Iso14443biClassInfo) : Json := .object [("uid", .ofVector i.uid)]

/-- Reads the description. -/
def ofJson? (j : Json) : Option Iso14443biClassInfo := do
  match ← j.fields? ["uid"] with
  | [some uid] => return ⟨← uid.vector? 8⟩
  | _ => none

end Iso14443biClassInfo

namespace JewelInfo

/-- Writes the description. -/
def toJson (i : JewelInfo) : Json :=
  .object [("sens_res", .ofVector i.sensRes), ("id", .ofVector i.id)]

/-- Reads the description. -/
def ofJson? (j : Json) : Option JewelInfo := do
  match ← j.fields? ["sens_res", "id"] with
  | [some sensRes, some id] => return ⟨← sensRes.vector? 2, ← id.vector? 4⟩
  | _ => none

end JewelInfo

namespace BarcodeInfo

/-- Writes the description. -/
def toJson (i : BarcodeInfo) : Json := .object [("data", .ofBytes i.data)]

/-- Reads the description. -/
def ofJson? (j : Json) : Option BarcodeInfo := do
  match ← j.fields? ["data"] with
  | [some data] => return ⟨← data.bytes?⟩
  | _ => none

end BarcodeInfo

namespace DepInfo

/-- Writes the description. -/
def toJson (i : DepInfo) : Json :=
  .object [("nfcid3", .ofVector i.nfcid3), ("did", .ofByte i.did), ("bs", .ofByte i.bs),
    ("br", .ofByte i.br), ("to", .ofByte i.timeout), ("pp", .ofByte i.pp),
    ("general_bytes", .ofBytes i.generalBytes), ("mode", i.mode.toJson)]

/-- Reads the description. -/
def ofJson? (j : Json) : Option DepInfo := do
  match ← j.fields? ["nfcid3", "did", "bs", "br", "to", "pp", "general_bytes", "mode"] with
  | [some nfcid3, some did, some bs, some br, some timeout, some pp, some general, some mode] =>
    return ⟨← nfcid3.vector? 10, ← did.byte?, ← bs.byte?, ← br.byte?, ← timeout.byte?, ← pp.byte?,
      ← general.bytes?, ← DepMode.ofJson? mode⟩
  | _ => none

end DepInfo

namespace TargetInfo

/-- Writes the fields of a description. -/
def body : TargetInfo → Json
  | .iso14443a i => i.toJson
  | .felica i => i.toJson
  | .iso14443b i => i.toJson
  | .iso14443bi i => i.toJson
  | .iso14443b2sr i => i.toJson
  | .iso14443b2ct i => i.toJson
  | .iso14443biClass i => i.toJson
  | .jewel i => i.toJson
  | .barcode i => i.toJson
  | .dep i => i.toJson

/-- Writes a description under its family's name. -/
def toJson (i : TargetInfo) : Json := .object [(i.family.name, i.body)]

/-- Reads the fields of a description of a family. -/
def ofBody? (j : Json) : Family → Option TargetInfo
  | .iso14443a => (Iso14443aInfo.ofJson? j).map .iso14443a
  | .felica => (FelicaInfo.ofJson? j).map .felica
  | .iso14443b => (Iso14443bInfo.ofJson? j).map .iso14443b
  | .iso14443bi => (Iso14443biInfo.ofJson? j).map .iso14443bi
  | .iso14443b2sr => (Iso14443b2srInfo.ofJson? j).map .iso14443b2sr
  | .iso14443b2ct => (Iso14443b2ctInfo.ofJson? j).map .iso14443b2ct
  | .iso14443biClass => (Iso14443biClassInfo.ofJson? j).map .iso14443biClass
  | .jewel => (JewelInfo.ofJson? j).map .jewel
  | .barcode => (BarcodeInfo.ofJson? j).map .barcode
  | .dep => (DepInfo.ofJson? j).map .dep

/-- Reads a description from an object with a single key. -/
def ofJson? : Json → Option TargetInfo
  | .object [(name, j)] => (Named.ofName? name).bind (ofBody? j)
  | _ => none

end TargetInfo

namespace Target

/-- Writes a target. -/
def toJson (t : Target) : Json :=
  .object [("baud_rate", t.baudRate.toJson), ("info", t.info.toJson)]

/-- Reads a target. -/
def ofJson? (j : Json) : Option Target := do
  match ← j.fields? ["baud_rate", "info"] with
  | [some baudRate, some info] => return ⟨← BaudRate.ofJson? baudRate, ← TargetInfo.ofJson? info⟩
  | _ => none

end Target

end NearField
