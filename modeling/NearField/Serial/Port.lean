import NearField.Abort
import NearField.Act
import NearField.Timeout
import NearField.Utf8

/-!
# Serial ports

A `SerialPort` moves bytes over a line.  A blocking read may be given the abort signal to
watch.  A `PortProvider` lists the ports of a host and claims them by name.
-/

namespace NearField

/-- A serial line with state `σ`. -/
class SerialPort (σ : Type) where
  /-- Sets the speed in bauds. -/
  setSpeed : UInt32 → Op σ Unit
  /-- Discards pending input; the flag tolerates a short wait for bytes in flight. -/
  flush : Bool → Op σ Unit
  /-- Writes all bytes. -/
  send : Bytes → Timeout → Op σ Unit
  /-- Reads exactly so many bytes; the flag says whether the abort signal is watched. -/
  receive : Nat → Timeout → Bool → Op (Watched σ) Bytes
  /-- Releases the line. -/
  close : σ → σ
  /-- The microseconds that have passed while the line was waited for. -/
  clock : σ → Nat := fun _ => 0

/-- A host with state `ω` whose ports are known by keys of type `π`. -/
structure PortProvider (ω π : Type) where
  /-- The names of the ports that are present. -/
  ports : ω → List String
  /-- Claims a port by name. -/
  claim : String → Op ω π

end NearField
