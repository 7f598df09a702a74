import NearField.Act
import NearField.Utf8

/-!
# Bounded copies

`copy` checks every size before it touches the destination, so a refused copy leaves the
destination as it was.  `wipe` overwrites a buffer with zeros.
-/

namespace NearField.BoundedCopy

/-- The largest size accepted; a larger one is a wrapped negative length. -/
def maxSize : Nat := Nat.pow 2 63 - 1

/-- Why a copy or a wipe is refused. -/
inductive Fault where
  /-- The source is too short, or there is no buffer. -/
  | invalid
  /-- The destination holds `capacity` bytes and `count` are to be copied. -/
  | overflow (capacity count : Nat)
  /-- A size is above `maxSize`. -/
  | range
  deriving DecidableEq, Repr

namespace Fault

/-- The code of a fault. -/
def code : Fault → Int
  | .invalid => -1
  | .overflow .. => -2
  | .range => -3

/-- The short name of a fault. -/
def name : Fault → String
  | .invalid => "Invalid"
  | .overflow .. => "Overflow"
  | .range => "Range"

/-- The wording of a fault. -/
def message : Fault → String
  | .invalid => "invalid parameter"
  | .overflow .. => "destination too small"
  | .range => "size out of range"

/-- Every fault counts as a failure of the chip. -/
def toError : Fault → Error := fun _ => .chip

/-- The record that a fault leaves in the log. -/
def records : Fault → List Log.Record
  | .overflow capacity count =>
    [⟨.error, Log.commonTopic, "Buffer overflow prevented: dst_size=" ++ toString capacity
      ++ ", src_size=" ++ toString count⟩]
  | _ => []

end Fault

/-- Copies the first `count` bytes of `source` over the front of `target`.  A zero count always
succeeds; sizes out of range come before a small destination, and that before a short
source. -/
def copy (target source : Bytes) (count : Nat) : Except Fault Bytes :=
  if count = 0 then .ok target
  else if maxSize < count ∨ maxSize < target.length then .error .range
  else if target.length < count then .error (.overflow target.length count)
  else if source.length < count then .error .invalid
  else .ok (source.take count ++ target.drop count)

/-- Overwrites a buffer with zeros; an empty buffer is refused. -/
def wipe (buffer : Bytes) : Except Fault Bytes :=
  if buffer.isEmpty then .error .invalid
  else if maxSize < buffer.length then .error .range
  else .ok (List.replicate buffer.length 0)

/-- Wipes the bytes of a buffer from place `first` up to place `stop`. -/
def wipeSlice (buffer : Bytes) (first stop : Nat) : Except Fault Bytes :=
  (wipe ((buffer.take stop).drop first)).map fun zeros =>
    buffer.take first ++ zeros ++ buffer.drop stop

/-- Copies as part of an operation: a fault is logged and fails as a chip error. -/
def copyOp {σ : Type} (target source : Bytes) (count : Nat) : Op σ Bytes := fun s =>
  match copy target source count with
  | .ok bytes => ⟨.ok bytes, s, []⟩
  | .error f => ⟨.error f.toError, s, f.records⟩

/-- Wipes a buffer as part of an operation. -/
def wipeOp {σ : Type} (buffer : Bytes) : Op σ Unit := fun s =>
  match wipe buffer with
  | .ok _ => ⟨.ok (), s, []⟩
  | .error f => ⟨.error f.toError, s, f.records⟩

end NearField.BoundedCopy
