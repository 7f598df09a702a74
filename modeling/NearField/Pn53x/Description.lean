import NearField.Act
import NearField.Pn53x.Command
import NearField.Iso14443
import NearField.Target

/-!
# Target descriptions

The chip describes the targets it found as bytes whose layout depends on the family.  A
description is read from left to right with a `Cursor`; reading past its end is logged and
fails as a transmission error.
-/

namespace NearField.Pn53x

/-- A description that is being read: its full size and the bytes not yet read. -/
structure Cursor where
  size : Nat
  rest : Bytes
  deriving DecidableEq, Repr

namespace Cursor

/-- Reports that `n` more bytes are not there. -/
def truncated {α : Type} (n : Nat) : Op Cursor α := do
  let c ← get
  Act.log .error Log.chipTopic ("Target description truncated (" ++ toString c.size
    ++ " bytes, need " ++ toString (c.size - c.rest.length + n) ++ ")")
  throw .io

/-- Reads `n` bytes. -/
def take (n : Nat) : Op Cursor Bytes := do
  let c ← get
  if n ≤ c.rest.length then
    set { c with rest := c.rest.drop n }
    return c.rest.take n
  else truncated n

/-- Reads `n` bytes as a vector. -/
def vector (n : Nat) : Op Cursor (Vector UInt8 n) := do
  match vector? n (← take n) with
  | some v => return v
  | none => throw .io

/-- Reads one byte. -/
def byte : Op Cursor UInt8 := do return (← vector 1)[0]

/-- Reads a whole description in an operation. -/
def readAll {σ α : Type} (data : Bytes) (reading : Op Cursor α) : Op σ α :=
  reading.zoom (fun _ => ⟨data.length, data⟩) fun _ s => s

end Cursor

/-- Removes the cascade tags that the chip leaves in identifiers of double and triple size. -/
def stripCascadeTags (uid : Bytes) : Bytes :=
  let isTag (i : Nat) : Bool := uid[i]? == some Iso14443.cascadeTag
  if uid.length = 8 ∧ isTag 0 then uid.drop 1
  else if uid.length = 12 ∧ isTag 0 ∧ isTag 4 then (uid.take 4).drop 1 ++ uid.drop 5
  else uid

/-- Reads an answer to select behind a description of type A; its length byte counts itself. -/
def readAts (sak : UInt8) : Op Cursor Bytes := do
  if sak &&& 0x20 ≠ 0 ∧ (← get).rest ≠ [] then
    let tl ← Cursor.byte
    if 1 < tl.toNat then Cursor.take (tl.toNat - 1) else return []
  else return []

/-- Reads a tag of type A. -/
def readIso14443a : Op Cursor Iso14443aInfo := do
  let atqa ← Cursor.vector 2
  let sak ← Cursor.byte
  let length ← Cursor.byte
  let uid ← Cursor.take length.toNat
  let ats ← readAts sak
  return ⟨atqa, sak, stripCascadeTags uid, ats⟩

/-- Reads a FeliCa tag; a length above eighteen announces a system code. -/
def readFelica : Op Cursor FelicaInfo := do
  let length ← Cursor.byte
  let resCode ← Cursor.byte
  let id ← Cursor.vector 8
  let pad ← Cursor.vector 8
  let sysCode ← if 18 < length.toNat then some <$> Cursor.vector 2 else pure none
  return ⟨resCode, id, pad, sysCode⟩

/-- Reads the answer to an attribution, which holds the card identifier; a missing answer is
logged and counts as none. -/
def readCardIdentifier : Op Cursor UInt8 := do
  match ← (Cursor.byte).attempt with
  | .error _ => return 0
  | .ok length =>
    if length = 0 then return 0
    let attrib ← Cursor.take length.toNat
    return attrib.headD 0 &&& 0x0F

/-- Reads a tag of type B. -/
def readIso14443b : Op Cursor Iso14443bInfo := do
  let atqb ← Cursor.vector 12
  let card ← readCardIdentifier
  return ⟨atqb.extract 1 5, atqb.extract 5 9, atqb.extract 9 12, card⟩

/-- Reads a Jewel tag. -/
def readJewel : Op Cursor JewelInfo := do
  let sensRes ← Cursor.vector 2
  let id ← Cursor.vector 4
  return ⟨sensRes, id⟩

/-- Reads the description of a tag of some family. -/
def readInfo : Family → Op Cursor TargetInfo
  | .iso14443a => TargetInfo.iso14443a <$> readIso14443a
  | .felica => TargetInfo.felica <$> readFelica
  | .iso14443b => TargetInfo.iso14443b <$> readIso14443b
  | .jewel => TargetInfo.jewel <$> readJewel
  | other => do
    Act.log .debug Log.chipTopic ("Cannot decode " ++ other.text ++ " targets")
    throw .deviceNotSupported

/-- The target that a description of some modulation stands for. -/
def decodeTarget {σ : Type} (data : Bytes) (m : Modulation) : Op σ Target := do
  let info ← Cursor.readAll data (readInfo m.family)
  return ⟨m.baudRate, info⟩

/-- Reads a peer device: a target number, its identifier, five parameters, and general bytes to
the end. -/
def readDep (mode : DepMode) : Op Cursor DepInfo := do
  let _ ← Cursor.byte
  let nfcid3 ← Cursor.vector 10
  let p ← Cursor.vector 5
  return ⟨nfcid3, p[0], p[1], p[2], p[3], p[4], (← get).rest, mode⟩

/-- The peer device that a description stands for. -/
def decodeDepTarget {σ : Type} (data : Bytes) (mode : DepMode) (baudRate : BaudRate) :
    Op σ Target := do
  let info ← Cursor.readAll data (readDep mode)
  return ⟨baudRate, .dep info⟩

end NearField.Pn53x
