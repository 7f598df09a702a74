/-!
# Shared contexts

A resource that is established when it is first needed, shared while anyone holds it, and gone
when the last holder drops it.  Every value that is established gets a cell of its own, which
counts those who hold it.  The context remembers one cell and does not hold it: when a holder is
asked for, the cell is shared if it is still held, and else a value is established anew.
-/

namespace NearField.Pcsc

/-- A value that was established, and the number of its holders. -/
structure Cell (α : Type) where
  value : α
  holders : Nat
  deriving DecidableEq, Repr

/-- The cells of all values that were established, oldest first, and the place of the one that is
remembered. -/
structure SharedContext (α : Type) where
  cells : List (Cell α) := []
  slot? : Option Nat := none
  deriving DecidableEq, Repr

namespace SharedContext

variable {α ε : Type}

/-- The cell that is remembered. -/
def current? (c : SharedContext α) : Option (Cell α) := c.slot?.bind (c.cells[·]?)

/-- The number of holders of the cell that is remembered. -/
def users (c : SharedContext α) : Nat := c.current?.elim 0 Cell.holders

/-- The remembered cell with its place, as long as somebody holds it. -/
def live? (c : SharedContext α) : Option (Nat × Cell α) := do
  let place ← c.slot?
  let cell ← c.cells[place]?
  if cell.holders = 0 then none else some (place, cell)

/-- Changes the number of holders of a cell. -/
def recount (c : SharedContext α) (place : Nat) (f : Nat → Nat) : SharedContext α :=
  { c with cells := c.cells.modify place fun cell => { cell with holders := f cell.holders } }

/-- Counts one more holder of a cell. -/
def retain (c : SharedContext α) (place : Nat) : SharedContext α := c.recount place (· + 1)

/-- Lets one holder of a cell go. -/
def release (c : SharedContext α) (place : Nat) : SharedContext α := c.recount place (· - 1)

/-- Remembers a new cell, which has one holder. -/
def fill (c : SharedContext α) (x : α) : SharedContext α :=
  ⟨c.cells ++ [⟨x, 1⟩], some c.cells.length⟩

/-- Shares the remembered cell while it is held, or else establishes a value.  A holder gets the
place of its cell and the value in it; the flag says whether establishing was tried. -/
def acquire (c : SharedContext α) (establish : Except ε α) :
    Except ε (Nat × α) × Bool × SharedContext α :=
  match c.live? with
  | some (place, cell) => (.ok (place, cell.value), false, c.retain place)
  | none =>
    match establish with
    | .ok x => (.ok (c.cells.length, x), true, c.fill x)
    | .error e => (.error e, true, c)

end SharedContext

/-- A shared context and its holders in the order they came, each with the place of its cell; the
place is missing when the holder has gone. -/
structure Holders (α : Type) where
  context : SharedContext α := {}
  held : List (Option Nat) := []
  deriving DecidableEq, Repr

namespace Holders

variable {α ε : Type}

/-- Adds a holder if a value can be had. -/
def acquire (h : Holders α) (establish : Except ε α) : Except ε α × Bool × Holders α :=
  match h.context.acquire establish with
  | (.ok (place, x), established, c) => (.ok x, established, ⟨c, h.held ++ [some place]⟩)
  | (.error e, established, c) => (.error e, established, { h with context := c })

/-- Drops a holder, which is done once. -/
def drop (h : Holders α) (i : Nat) : Holders α :=
  match h.held[i]? with
  | some (some place) => ⟨h.context.release place, h.held.set i none⟩
  | _ => h

end Holders

end NearField.Pcsc
