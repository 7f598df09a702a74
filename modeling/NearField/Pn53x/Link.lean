import NearField.Abort
import NearField.Hex
import NearField.Pn53x.Command
import NearField.Timeout
import NearField.Act

/-!
# Links to a PN53x

A `ChipLink` carries one command at a time to the chip and brings its reply back, whatever the
wire is.  `checkCommunication` asks the chip for an echo over any link.
-/

namespace NearField.Pn53x

/-- The wire between host and chip, with state `τ`. -/
class ChipLink (τ : Type) where
  /-- Sends a command code and its parameters and waits for the acknowledgement. -/
  send : Bytes → Timeout → Op τ Unit
  /-- Waits for the reply to a command: the parameters behind the response code, at most as
  many as the given capacity. -/
  receive : Nat → UInt8 → Timeout → Op τ Bytes
  /-- The abort signal that waiting for a reply watches. -/
  signal? : τ → Option AbortSignal := fun _ => none
  /-- Raises the abort signal from outside. -/
  raiseSignal : τ → τ := id
  /-- The microseconds that have passed while the wire was waited for. -/
  clock : τ → Nat := fun _ => 0
  /-- Cancels the wait that runs, or the next one. -/
  abortCommand : Op τ Unit := throw .deviceNotSupported
  /-- Whether the chip may be put to sleep. -/
  supportsPowerDown : τ → Bool := fun _ => true
  /-- Releases the wire. -/
  close : τ → τ := id

/-- How long the echo may take. -/
def checkTimeout : Timeout := .millis 500

/-- Room for the echo. -/
def checkCapacity : Nat := 16

/-- Asks for an echo with given ways to send and to receive; any other answer than the text
itself is a transmission error. -/
def echoTest {τ : Type} (send : Bytes → Timeout → Op τ Unit)
    (receive : Nat → UInt8 → Timeout → Op τ Bytes) : Op τ Unit := do
  send Command.echo checkTimeout
  let reply ← receive checkCapacity diagnose checkTimeout
  if reply ≠ Command.echoReply then
    Act.log .error Log.chipTopic ("Communication test failed: " ++ Hex.spaced reply)
    throw .io

/-- Asks the chip for an echo over its link. -/
def checkCommunication {τ : Type} [ChipLink τ] : Op τ Unit :=
  echoTest ChipLink.send ChipLink.receive

end NearField.Pn53x
