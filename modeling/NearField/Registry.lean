import NearField.Driver
import NearField.Text.Quoted

/-!
# Registries

The drivers that are consulted, in order: the one registered last comes first.  A driver may be
registered more than once.
-/

namespace NearField

/-- Drivers in the order in which they are consulted. -/
structure Registry (ω δ : Type) where
  drivers : List (Driver ω δ) := []

namespace Registry

variable {ε ω δ : Type}

/-- The drivers that are always there: none, since every one needs hardware to be told of. -/
def builtin : Registry ω δ := {}

/-- Puts a driver in front. -/
def insert (r : Registry ω δ) (d : Driver ω δ) : Registry ω δ := ⟨d :: r.drivers⟩

/-- Registers a driver. -/
def register (d : Driver ω δ) : Act ε (Registry ω δ) Unit := do
  Act.log .debug Log.generalTopic ("Registering driver: " ++ d.name)
  modify fun r => r.insert d

/-- The names of the drivers. -/
def names (r : Registry ω δ) : List String := r.drivers.map Driver.name

/-- The number of drivers. -/
def size (r : Registry ω δ) : Nat := r.drivers.length

/-- Whether there is no driver. -/
def isEmpty (r : Registry ω δ) : Bool := r.drivers.isEmpty

/-- The registry without drivers. -/
def clear (_ : Registry ω δ) : Registry ω δ := {}

/-- The description of a registry. -/
def description (r : Registry ω δ) : String := Text.quotedList r.names

end Registry

end NearField
