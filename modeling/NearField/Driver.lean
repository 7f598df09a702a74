import NearField.ConnString
import NearField.Text.Quoted

/-!
# Drivers

A driver stands for one family of hardware in a world of type `ω`: it looks for readers, and it
claims one that a connection string names.  What it claims is a handle of type `δ`.
-/

namespace NearField

/-- Whether looking for readers disturbs what is connected. -/
inductive ScanType where
  | notIntrusive
  /-- Probing sends bytes to every candidate. -/
  | intrusive
  deriving DecidableEq, Repr

/-- The name of a scan type. -/
def ScanType.name : ScanType → String
  | .notIntrusive => "NotIntrusive"
  | .intrusive => "Intrusive"

/-- A claimed reader and a name for people. -/
structure Claim (δ : Type) where
  name : String
  handle : δ

/-- The description of a claimed reader. -/
def Claim.description {δ : Type} (c : Claim δ) : String :=
  "OpenedDevice \x7b name: " ++ Text.quoted c.name ++ " \x7d"

/-- A family of hardware. -/
structure Driver (ω δ : Type) where
  name : String
  scanType : ScanType := .notIntrusive
  /-- Looks for some readers at most. -/
  scan : Nat → Act Empty ω (List ConnString) := fun _ => pure []
  /-- Claims the reader that a connection string names. -/
  claim : ConnString → Op ω (Claim δ)

/-- A driver whose handles are seen as others. -/
def Driver.map {ω δ δ' : Type} (f : δ → δ') (d : Driver ω δ) : Driver ω δ' where
  name := d.name
  scanType := d.scanType
  scan := d.scan
  claim c := do
    let claimed ← d.claim c
    return ⟨claimed.name, f claimed.handle⟩

end NearField
