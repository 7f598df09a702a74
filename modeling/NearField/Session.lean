import NearField.Reader

/-!
# Sessions

A reader together with the target that it found last, for the calls that ask about that target.
-/

namespace NearField

/-- A reader and the target that it found last. -/
structure Session (σ : Type) where
  reader : σ
  last? : Option Target := none

namespace Session

variable {ε σ τ α : Type}

/-- Exchanges the reader of a session. -/
def map (f : σ → τ) (s : Session σ) : Session τ := ⟨f s.reader, s.last?⟩

/-- Runs an action of the reader. -/
def onReader (a : Act ε σ α) : Act ε (Session σ) α :=
  a.zoom Session.reader fun r s => { s with reader := r }

/-- Runs a search of the reader and remembers what it found. -/
def finding (a : Act ε σ (Option Target)) : Act ε (Session σ) (Option Target) := do
  let found ← onReader a
  modify fun s => { s with last? := found.orElse fun _ => s.last? }
  return found

end Session

end NearField
