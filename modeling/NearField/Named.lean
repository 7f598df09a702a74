/-!
# Named values

Types with finitely many values, each of which has a short name that records use.
-/

namespace NearField

/-- A type whose values have short names. -/
class Named (α : Type) where
  /-- The values. -/
  all : List α
  /-- The short name of a value. -/
  name : α → String

/-- The value of a short name. -/
def Named.ofName? {α : Type} [Named α] (s : String) : Option α :=
  (all : List α).find? fun x => name x == s

end NearField
