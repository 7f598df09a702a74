import NearField.Reader.Inner
import NearField.Proofs.Act

/-!
# Notes on a world

A `Noted ν ω` is a world of type `ω` together with notes of type `ν`.  An action of the world is
handed on to it in silence (`Noted.passing`), with a note of the action (`Noted.noting`), or with a
note of how it ended (`Noted.recording`).  All run as the action does (`simulates_passing`,
`simulates_noting`, `simulates_recording`), so what is built from actions that take notes runs as
what is built from the actions themselves.  A handle is worked in the world itself.
-/

namespace NearField

/-- A world, and what was noted about it. -/
structure Noted (ν ω : Type) where
  world : ω
  notes : List ν := []

namespace Noted

variable {ε ν ω α : Type}

/-- Adds a note. -/
def note (x : ν) (n : Noted ν ω) : Noted ν ω := { n with notes := n.notes ++ [x] }

/-- Runs an action of the world itself. -/
def passing (a : Act ε ω α) : Act ε (Noted ν ω) α :=
  a.zoom Noted.world fun w n => { n with world := w }

/-- Notes an action of the world and runs it. -/
def noting (x : ν) (a : Act ε ω α) : Act ε (Noted ν ω) α := do
  modify (note x)
  passing a

/-- Runs an action of the world and notes how it ended. -/
def recording (f : Except ε α → ν) (a : Act ε ω α) : Act ε (Noted ν ω) α := do
  let r ← (passing a).attempt
  modify (note (f r))
  Act.ofExcept r

/-- A recorded action ends as it does, and its note comes last. -/
theorem recording_run (f : Except ε α → ν) (a : Act ε ω α) (n : Noted ν ω) :
    (recording f a n).result = (a n.world).result ∧
      (recording f a n).state =
        ⟨(a n.world).state, n.notes ++ [f (a n.world).result]⟩ := by
  unfold recording
  rw [(Act.attempt_bind _ _ _).1, (Act.attempt_bind _ _ _).2, (Act.modify_bind _ _ _).1,
    (Act.modify_bind _ _ _).2, Act.ofExcept_apply]
  exact ⟨rfl, rfl⟩

/-- The world that is noted about is this one. -/
def Around (n : Noted ν ω) (w : ω) : Prop := n.world = w

/-- An action that is handed on runs as it does beside no notes. -/
theorem simulates_passing (a : Act ε ω α) : Act.Simulates (Around (ν := ν)) (passing a) a := by
  rintro n _ rfl
  exact ⟨rfl, rfl⟩

/-- A note that is made first has no part in the run. -/
theorem simulates_noting (x : ν) (a : Act ε ω α) : Act.Simulates Around (noting x a) a := by
  rintro n _ rfl
  exact ⟨rfl, rfl⟩

/-- Nor has one that is made of what came out. -/
theorem simulates_recording (f : Except ε α → ν) (a : Act ε ω α) :
    Act.Simulates Around (recording f a) a := by
  rintro n _ rfl
  obtain ⟨hresult, hstate⟩ := recording_run f a n
  exact ⟨hresult, congrArg world hstate⟩

/-! ## Handles in a world that is noted about -/

section Handles

variable {π : Type}

/-- A handle in the world itself. -/
def part (s : Noted ν ω × π) : ω × π := (s.1.world, s.2)

/-- A handle and its world, under the notes that there were. -/
def put (p : ω × π) (s : Noted ν ω × π) : Noted ν ω × π := ({ s.1 with world := p.1 }, p.2)

/-- A reader in the world itself is one in a world that is noted about, without notes. -/
instance [Reader (ω × π)] : Reader (Noted ν ω × π) :=
  Reader.ofInner fun s => { Inner := ω × π, inner := part s, put := fun p => put p s }

/-- Releasing a reader makes no note. -/
theorem close_state [Reader (ω × π)] (n : Noted ν ω) (handle : π) :
    (Reader.close (n, handle)).state.1 =
      ⟨(Reader.close (n.world, handle)).state.1, n.notes⟩ := rfl

end Handles

end Noted

end NearField
