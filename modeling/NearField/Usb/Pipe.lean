import NearField.Abort
import NearField.Act
import NearField.Utf8

/-!
# Bulk pipes

A pair of bulk endpoints of a USB reader.  Each call moves one transfer.
-/

namespace NearField

/-- A pair of bulk endpoints with state `σ`. -/
class BulkPipe (σ : Type) where
  /-- Writes one transfer within some milliseconds, zero meaning without end, and gives the
  number of bytes written. -/
  write : Bytes → Nat → Op σ Nat
  /-- Reads one transfer of at most so many bytes within some microseconds. -/
  read : Nat → Nat → Op (Watched σ) Bytes
  /-- Releases the endpoints. -/
  close : σ → σ
  /-- The microseconds that have passed while the pipe was waited for. -/
  clock : σ → Nat := fun _ => 0

end NearField
