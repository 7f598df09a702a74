import Mathlib.Data.List.Nodup
import NearField.Target.Json

/-!
# Targets that are read back

A target and a modulation are read back from the JSON that they are written as, whatever family,
fields and numbers of bytes they have (`targets_and_modulations_read_back`).

`Layout` says how JSON is laid out, without the values: a byte is a number and bytes are an array of
them, an option is its value or null, a record is an object with its fields, and one of several
variants is an object with the variant's name as its single key.  Each type comes with its layout
and with the statement that its values are written that way and read back (`ReadsBack`).  It is put
together from the statements on the parts.  Fields are found by their names, and no two fields of a
record and no two variants share one, so nothing is taken for something else.
-/

namespace NearField

variable {α : Type}

/-! ## Layouts -/

/-- How values of a type look as JSON. -/
inductive Json.Layout where
  | byte
  /-- As many bytes as `count?` says, if it says so. -/
  | bytes (count? : Option Nat)
  | optional (value : Layout)
  | name (names : List String)
  | record (fields : List (String × Layout))
  | tagged (variants : List (String × Layout))

/-- A JSON value is laid out in a way. -/
inductive Json.Layout.Holds : Layout → Json → Prop where
  | byte (b : UInt8) : Holds .byte (.integer b.toNat)
  | bytes {count? : Option Nat} (bs : Bytes) (h : ∀ n ∈ count?, bs.length = n) :
      Holds (.bytes count?) (.array (bs.map fun b => .integer b.toNat))
  | absent (value : Layout) : Holds (.optional value) .null
  | present {value : Layout} {j : Json} (h : value.Holds j) : Holds (.optional value) j
  | name {names : List String} {s : String} (h : s ∈ names) : Holds (.name names) (.string s)
  | done : Holds (.record []) (.object [])
  | field {key : String} {value : Layout} {j : Json} {fields : List (String × Layout)}
      {members : List (String × Json)} (h : value.Holds j)
      (hrest : Holds (.record fields) (.object members)) :
      Holds (.record ((key, value) :: fields)) (.object ((key, j) :: members))
  | variant {key : String} {value : Layout} {j : Json} {variants : List (String × Layout)}
      (hkey : (key, value) ∈ variants) (h : value.Holds j) :
      Holds (.tagged variants) (.object [(key, j)])

open Json (Layout)

/-- Values are written in a layout and read back. -/
structure ReadsBack (layout : Layout) (write : α → Json) (read : Json → Option α) : Prop where
  holds (x : α) : layout.Holds (write x)
  read_write (x : α) : read (write x) = some x

/-! ## Parts -/

/-- A number up to 255 is a byte again. -/
@[simp] theorem byte?_ofByte (b : UInt8) : (Json.ofByte b).byte? = some b := by
  have hlt : (b.toNat : Int) < 256 := Int.ofNat_lt.mpr b.toNat_lt
  simp [Json.ofByte, Json.byte?, hlt]

/-- An array of such numbers is the bytes again. -/
@[simp] theorem bytes?_ofBytes (bs : Bytes) : (Json.ofBytes bs).bytes? = some bs := by
  rw [Json.ofBytes, Json.bytes?]
  induction bs with
  | nil => rfl
  | cons b bs ih => simp [ih]

/-- So is an array of a fixed length. -/
@[simp] theorem vector?_ofVector {n : Nat} (v : Vector UInt8 n) :
    (Json.ofVector v).vector? n = some v := by
  rw [Json.ofVector, Json.vector?, bytes?_ofBytes, Option.bind_some, vector?,
    dif_pos v.length_toList]
  rfl

/-- A byte is a number. -/
theorem readsBack_byte : ReadsBack .byte Json.ofByte Json.byte? where
  holds := .byte
  read_write := byte?_ofByte

/-- Bytes are an array of numbers. -/
theorem readsBack_bytes : ReadsBack (.bytes none) Json.ofBytes Json.bytes? where
  holds bs := .bytes bs nofun
  read_write := bytes?_ofBytes

/-- A fixed number of bytes is an array of that length. -/
theorem readsBack_vector {n : Nat} :
    ReadsBack (.bytes (some n)) (Json.ofVector (n := n)) (Json.vector? n) where
  holds v := .bytes v.toList fun _ hn => v.length_toList.trans (Option.some.inj hn)
  read_write := vector?_ofVector

/-- An option is read back if no value of it is written as null. -/
theorem ReadsBack.option {layout : Layout} {write : α → Json} {read : Json → Option α}
    (h : ReadsBack layout write read) (hnull : ∀ x, write x ≠ .null) :
    ReadsBack (.optional layout) (Json.ofOption write) fun j => Json.option? read (some j) where
  holds
    | none => .absent layout
    | some x => .present (h.holds x)
  read_write
    | none => rfl
    | some x => by
      rw [Json.ofOption, Json.option?, h.read_write]
      · rfl
      · exact hnull x

/-! ## Names -/

/-- The names of a type. -/
def Json.Layout.ofNamed (α : Type) [Named α] : Layout := .name ((Named.all : List α).map Named.name)

section Named

variable [Named α]

/-- A value is found by its name if no other value has that name. -/
theorem ofName?_name (hnames : ((Named.all : List α).map Named.name).Nodup) {x : α}
    (hx : x ∈ (Named.all : List α)) : Named.ofName? (Named.name x) = some x := by
  have hfound : (Named.ofName? (Named.name x) : Option α).isSome :=
    List.find?_isSome.mpr ⟨x, hx, beq_self_eq_true _⟩
  obtain ⟨y, hy⟩ := Option.isSome_iff_exists.mp hfound
  have hname : (Named.name y == Named.name x) = true :=
    List.find?_some (p := fun z => Named.name z == Named.name x) hy
  rw [hy, List.inj_on_of_nodup_map hnames (List.mem_of_find?_eq_some hy) hx (eq_of_beq hname)]

/-- A value with a name is its name, if no two values share one. -/
theorem readsBack_named (hall : ∀ x, x ∈ (Named.all : List α))
    (hnames : ((Named.all : List α).map Named.name).Nodup) :
    ReadsBack (.ofNamed α) (fun x : α => .string (Named.name x))
      (fun j => j.name?.bind Named.ofName?) where
  holds x := .name (List.mem_map_of_mem (hall x))
  read_write x := ofName?_name hnames (hall x)

end Named

theorem BaudRate.readsBack : ReadsBack (.ofNamed BaudRate) toJson ofJson? :=
  readsBack_named (fun b => by cases b <;> decide) (by decide)

theorem Family.mem_all (f : Family) : f ∈ all := by cases f <;> decide

/-- No two families share a name. -/
theorem Family.nodup_names : (all.map name).Nodup := by decide

theorem Family.readsBack : ReadsBack (.ofNamed Family) toJson ofJson? :=
  readsBack_named mem_all nodup_names

theorem DepMode.readsBack : ReadsBack (.ofNamed DepMode) toJson ofJson? :=
  readsBack_named (fun m => by cases m <;> decide) (by decide)

/-! ## Records -/

/-- The fields of a record are members of its object. -/
@[simp] theorem fields?_object (names : List String) (members : List (String × Json)) :
    Json.fields? names (.object members) = some (names.map (Json.member? · members)) := rfl

/-- A member is found by its key, and the first of that key counts. -/
@[simp] theorem member?_cons (key : String) (member : String × Json)
    (members : List (String × Json)) :
    Json.member? key (member :: members) =
      if member.1 = key then some member.2 else Json.member? key members := by
  by_cases h : member.1 = key <;> simp [Json.member?, h]

namespace Iso14443aInfo

/-- The layout of the description. -/
def layout : Layout :=
  .record [("atqa", .bytes (some 2)), ("sak", .byte), ("uid", .bytes none), ("ats", .bytes none)]

/-- An ATQA, a SAK, a UID and an ATS are read back. -/
theorem readsBack : ReadsBack layout toJson ofJson? where
  holds i := .field (readsBack_vector.holds i.atqa) <| .field (readsBack_byte.holds i.sak) <|
    .field (readsBack_bytes.holds i.uid) <| .field (readsBack_bytes.holds i.ats) .done
  read_write i := by simp [toJson, ofJson?]

end Iso14443aInfo

namespace FelicaInfo

/-- The layout of the description. -/
def layout : Layout :=
  .record [("res_code", .byte), ("id", .bytes (some 8)), ("pad", .bytes (some 8)),
    ("sys_code", .optional (.bytes (some 2)))]

/-- A system code is there or null. -/
theorem readsBack_sysCode : ReadsBack (.optional (.bytes (some 2)))
    (Json.ofOption Json.ofVector) fun j => Json.option? (Json.vector? 2) (some j) :=
  readsBack_vector.option nofun

/-- A FeliCa description is read back, with its system code or without. -/
theorem readsBack : ReadsBack layout toJson ofJson? where
  holds i := .field (readsBack_byte.holds i.resCode) <| .field (readsBack_vector.holds i.id) <|
    .field (readsBack_vector.holds i.pad) <| .field (readsBack_sysCode.holds i.sysCode) .done
  read_write i := by simp [toJson, ofJson?, readsBack_sysCode.read_write]

end FelicaInfo

namespace Iso14443bInfo

/-- The layout of the description. -/
def layout : Layout :=
  .record [("pupi", .bytes (some 4)), ("application_data", .bytes (some 4)),
    ("protocol_info", .bytes (some 3)), ("card_identifier", .byte)]

/-- A description of type B is read back. -/
theorem readsBack : ReadsBack layout toJson ofJson? where
  holds i := .field (readsBack_vector.holds i.pupi) <|
    .field (readsBack_vector.holds i.applicationData) <|
    .field (readsBack_vector.holds i.protocolInfo) <|
    .field (readsBack_byte.holds i.cardIdentifier) .done
  read_write i := by simp [toJson, ofJson?]

end Iso14443bInfo

namespace Iso14443biInfo

/-- The layout of the description. -/
def layout : Layout :=
  .record [("div", .bytes (some 4)), ("ver_log", .byte), ("config", .byte), ("atr", .bytes none)]

/-- A description of type B' is read back, with an ATR of any length. -/
theorem readsBack : ReadsBack layout toJson ofJson? where
  holds i := .field (readsBack_vector.holds i.div) <| .field (readsBack_byte.holds i.verLog) <|
    .field (readsBack_byte.holds i.config) <| .field (readsBack_bytes.holds i.atr) .done
  read_write i := by simp [toJson, ofJson?]

end Iso14443biInfo

namespace Iso14443b2srInfo

/-- The layout of the description. -/
def layout : Layout := .record [("uid", .bytes (some 8))]

theorem readsBack : ReadsBack layout toJson ofJson? where
  holds i := .field (readsBack_vector.holds i.uid) .done
  read_write i := by simp [toJson, ofJson?]

end Iso14443b2srInfo

namespace Iso14443b2ctInfo

/-- The layout of the description. -/
def layout : Layout :=
  .record [("uid", .bytes (some 4)), ("prod_code", .byte), ("fab_code", .byte)]

theorem readsBack : ReadsBack layout toJson ofJson? where
  holds i := .field (readsBack_vector.holds i.uid) <| .field (readsBack_byte.holds i.prodCode) <|
    .field (readsBack_byte.holds i.fabCode) .done
  read_write i := by simp [toJson, ofJson?]

end Iso14443b2ctInfo

namespace Iso14443biClassInfo

/-- The layout of the description. -/
def layout : Layout := .record [("uid", .bytes (some 8))]

theorem readsBack : ReadsBack layout toJson ofJson? where
  holds i := .field (readsBack_vector.holds i.uid) .done
  read_write i := by simp [toJson, ofJson?]

end Iso14443biClassInfo

namespace JewelInfo

/-- The layout of the description. -/
def layout : Layout := .record [("sens_res", .bytes (some 2)), ("id", .bytes (some 4))]

theorem readsBack : ReadsBack layout toJson ofJson? where
  holds i := .field (readsBack_vector.holds i.sensRes) <|
    .field (readsBack_vector.holds i.id) .done
  read_write i := by simp [toJson, ofJson?]

end JewelInfo

namespace BarcodeInfo

/-- The layout of the description. -/
def layout : Layout := .record [("data", .bytes none)]

theorem readsBack : ReadsBack layout toJson ofJson? where
  holds i := .field (readsBack_bytes.holds i.data) .done
  read_write i := by simp [toJson, ofJson?]

end BarcodeInfo

namespace DepInfo

/-- The layout of the description. -/
def layout : Layout :=
  .record [("nfcid3", .bytes (some 10)), ("did", .byte), ("bs", .byte), ("br", .byte),
    ("to", .byte), ("pp", .byte), ("general_bytes", .bytes none), ("mode", .ofNamed DepMode)]

/-- A description of a peer is read back, with its mode by name. -/
theorem readsBack : ReadsBack layout toJson ofJson? where
  holds i := .field (readsBack_vector.holds i.nfcid3) <| .field (readsBack_byte.holds i.did) <|
    .field (readsBack_byte.holds i.bs) <| .field (readsBack_byte.holds i.br) <|
    .field (readsBack_byte.holds i.timeout) <| .field (readsBack_byte.holds i.pp) <|
    .field (readsBack_bytes.holds i.generalBytes) <|
    .field (DepMode.readsBack.holds i.mode) .done
  read_write i := by simp [toJson, ofJson?, DepMode.readsBack.read_write]

end DepInfo

/-! ## Targets and modulations -/

/-- The layout of what a tag of a family says about itself. -/
def Family.infoLayout : Family → Layout
  | .iso14443a => Iso14443aInfo.layout
  | .jewel => JewelInfo.layout
  | .barcode => BarcodeInfo.layout
  | .iso14443b => Iso14443bInfo.layout
  | .iso14443bi => Iso14443biInfo.layout
  | .iso14443b2sr => Iso14443b2srInfo.layout
  | .iso14443b2ct => Iso14443b2ctInfo.layout
  | .iso14443biClass => Iso14443biClassInfo.layout
  | .felica => FelicaInfo.layout
  | .dep => DepInfo.layout

namespace TargetInfo

/-- The layout of a description: that of the family, under its name. -/
def layout : Layout := .tagged (Family.all.map fun f => (f.name, f.infoLayout))

/-- What a tag says about itself is laid out as its family has it. -/
theorem holds_body (i : TargetInfo) : i.family.infoLayout.Holds i.body := by
  cases i with
  | iso14443a i => exact Iso14443aInfo.readsBack.holds i
  | felica i => exact FelicaInfo.readsBack.holds i
  | iso14443b i => exact Iso14443bInfo.readsBack.holds i
  | iso14443bi i => exact Iso14443biInfo.readsBack.holds i
  | iso14443b2sr i => exact Iso14443b2srInfo.readsBack.holds i
  | iso14443b2ct i => exact Iso14443b2ctInfo.readsBack.holds i
  | iso14443biClass i => exact Iso14443biClassInfo.readsBack.holds i
  | jewel i => exact JewelInfo.readsBack.holds i
  | barcode i => exact BarcodeInfo.readsBack.holds i
  | dep i => exact DepInfo.readsBack.holds i

/-- It is read back by the family that it was written under. -/
theorem ofBody?_body (i : TargetInfo) : ofBody? i.body i.family = some i := by
  cases i with
  | iso14443a i => simp [body, family, ofBody?, Iso14443aInfo.readsBack.read_write]
  | felica i => simp [body, family, ofBody?, FelicaInfo.readsBack.read_write]
  | iso14443b i => simp [body, family, ofBody?, Iso14443bInfo.readsBack.read_write]
  | iso14443bi i => simp [body, family, ofBody?, Iso14443biInfo.readsBack.read_write]
  | iso14443b2sr i => simp [body, family, ofBody?, Iso14443b2srInfo.readsBack.read_write]
  | iso14443b2ct i => simp [body, family, ofBody?, Iso14443b2ctInfo.readsBack.read_write]
  | iso14443biClass i => simp [body, family, ofBody?, Iso14443biClassInfo.readsBack.read_write]
  | jewel i => simp [body, family, ofBody?, JewelInfo.readsBack.read_write]
  | barcode i => simp [body, family, ofBody?, BarcodeInfo.readsBack.read_write]
  | dep i => simp [body, family, ofBody?, DepInfo.readsBack.read_write]

/-- The family's name tells the variants apart, since no two families share one. -/
theorem readsBack : ReadsBack layout toJson ofJson? where
  holds i := .variant (List.mem_map_of_mem (Family.mem_all i.family)) (holds_body i)
  read_write i := by
    have hname : Named.ofName? i.family.name = some i.family :=
      ofName?_name Family.nodup_names (Family.mem_all i.family)
    rw [toJson, ofJson?, hname, Option.bind_some, ofBody?_body]

end TargetInfo

namespace Target

/-- The layout of a target. -/
def layout : Layout :=
  .record [("baud_rate", .ofNamed BaudRate), ("info", TargetInfo.layout)]

/-- A target is its speed and its description. -/
theorem readsBack : ReadsBack layout toJson ofJson? where
  holds t := .field (BaudRate.readsBack.holds t.baudRate) <|
    .field (TargetInfo.readsBack.holds t.info) .done
  read_write t := by
    simp [toJson, ofJson?, BaudRate.readsBack.read_write, TargetInfo.readsBack.read_write]

end Target

namespace Modulation

/-- The layout of a modulation. -/
def layout : Layout :=
  .record [("modulation_type", .ofNamed Family), ("baud_rate", .ofNamed BaudRate)]

/-- A modulation is its family and its speed. -/
theorem readsBack : ReadsBack layout toJson ofJson? where
  holds m := .field (Family.readsBack.holds m.family) <|
    .field (BaudRate.readsBack.holds m.baudRate) .done
  read_write m := by
    simp [toJson, ofJson?, fieldNames, Family.readsBack.read_write,
      BaudRate.readsBack.read_write]

end Modulation

/-- **Every target and every modulation is written in its layout and read back from there**: a
target of any family, with any fields and any numbers of bytes. -/
theorem targets_and_modulations_read_back :
    (∀ t : Target, Target.layout.Holds t.toJson ∧ Target.ofJson? t.toJson = some t) ∧
      ∀ m : Modulation, Modulation.layout.Holds m.toJson ∧ Modulation.ofJson? m.toJson = some m :=
  ⟨fun t => ⟨Target.readsBack.holds t, Target.readsBack.read_write t⟩,
    fun m => ⟨Modulation.readsBack.holds m, Modulation.readsBack.read_write m⟩⟩

end NearField
