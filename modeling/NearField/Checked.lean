import NearField.Act

/-!
# Programs that can stop out of range

A `Checked` program ends like an operation of the library, or it stops where a number leaves the
range of its type, or an access its buffer.  No error of the library tells of such a stop, and
nothing takes it back.
-/

namespace NearField

/-- How a checked program stops early: with an error of the library, or at an access or a count
that is out of range. -/
inductive Halt where
  | error (e : Error)
  | outOfRange
  deriving DecidableEq, Repr

/-- A program that checks its accesses and its numbers. -/
abbrev Checked (σ α : Type) : Type := Act Halt σ α

/-- A number as a word of 32 bits, if it fits. -/
def word? (n : Nat) : Option UInt32 :=
  if n < UInt32.size then some (UInt32.ofNat n) else none

namespace Checked

variable {σ α : Type}

/-- A program that takes no accesses of its own. -/
def lift (a : Op σ α) : Checked σ α := a.mapError .error

/-- Runs a program and hands its success or its error on as a value; nothing takes back an access
that was out of range. -/
def attempt (a : Checked σ α) : Checked σ (Except Error α) := fun s =>
  match a s with
  | ⟨.ok x, s', log⟩ => ⟨.ok (.ok x), s', log⟩
  | ⟨.error (.error e), s', log⟩ => ⟨.ok (.error e), s', log⟩
  | ⟨.error .outOfRange, s', log⟩ => ⟨.error .outOfRange, s', log⟩

end Checked

end NearField
