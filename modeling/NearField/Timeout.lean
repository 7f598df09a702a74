/-!
# Timeouts

A wait is bounded by the implementation default, by a number of milliseconds, or not at all.
Signed millisecond counts, as callers give them, use zero for an endless wait and a negative
value for the default.
-/

namespace NearField

/-- How long an operation may wait. -/
inductive Timeout where
  /-- The default of the implementation. -/
  | default
  /-- Wait forever. -/
  | infinite
  /-- Wait at most this many milliseconds. -/
  | millis (n : UInt32)
  deriving DecidableEq, Repr, Inhabited

namespace Timeout

/-- The default wait in milliseconds. -/
def defaultMillis : Nat := 1000

/-- The length of the wait in milliseconds; none means forever. -/
def duration? : Timeout → Option Nat
  | .default => some defaultMillis
  | .infinite => none
  | .millis n => some n.toNat

/-- Whether the wait ends by itself. -/
def hasDeadline (t : Timeout) : Bool := t.duration?.isSome

/-- Reads a signed millisecond count: zero waits forever, a negative value is the default. -/
def ofInt (v : Int) : Timeout :=
  if v = 0 then .infinite else if v < 0 then .default else .millis (UInt32.ofNat v.toNat)

/-- Bounds a wait by a duration, rounded down to milliseconds and cut at the largest count. -/
def ofDuration (secs nanos : Nat) : Timeout :=
  .millis (UInt32.ofNat (min (secs * 1000 + nanos / 1000000) (Nat.pow 2 32 - 1)))

end Timeout

end NearField
