import NearField.Error

/-!
# Planned faults

For each kind of call a plan says which of the next calls fail, and how.  A kind without a
plan, and a plan that is used up, let calls through.
-/

namespace NearField.Simulated

/-- How a call on a wire fails. -/
inductive WireFault where
  /-- It fails with an error. -/
  | fails (e : Error)
  /-- The abort signal is raised while it waits. -/
  | aborts
  deriving DecidableEq, Repr

/-- The plans by kind of call. -/
structure Faults (φ : Type) where
  plans : List (String × List (Option φ)) := []
  deriving DecidableEq, Repr

namespace Faults

variable {φ : Type}

/-- The entries that are left for a kind of call. -/
def pending (f : Faults φ) (call : String) : List (Option φ) := (f.plans.lookup call).getD []

/-- The fault of the next call of a kind, and the plans after it. -/
def next (f : Faults φ) (call : String) : Option φ × Faults φ :=
  (((f.pending call).head?).join,
    ⟨f.plans.map fun p => if p.1 == call then (p.1, p.2.drop 1) else p⟩)

/-- Adds entries behind those of a kind of call. -/
def plan (f : Faults φ) (call : String) (entries : List (Option φ)) : Faults φ :=
  ⟨(call, f.pending call ++ entries) :: f.plans.filter fun p => p.1 != call⟩

/-- Adds several plans. -/
def planAll (f : Faults φ) (plans : List (String × List (Option φ))) : Faults φ :=
  plans.foldl (fun f p => f.plan p.1 p.2) f

end Faults

end NearField.Simulated
