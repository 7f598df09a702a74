import NearField.Serial.Port

/-!
# Simulated serial lines

A line in memory.  Every send is recorded and releases the next scripted reply into the input,
the way a chip answers a command.  Nothing arrives by itself, so a read that can not be met
ends at once: with a pending abort if it watches the signal, else as a timeout.
-/

namespace NearField.Simulated

/-- A serial line in memory. -/
structure Line where
  sent : List Bytes := []
  replies : List Bytes := []
  input : Bytes := []
  speed : UInt32 := 0
  flushes : Nat := 0
  closed : Bool := false
  deriving DecidableEq, Repr

namespace Line

/-- Scripts the reply to the next unanswered send; an empty reply is silence. -/
def script (l : Line) (reply : Bytes) : Line := { l with replies := l.replies ++ [reply] }

/-- Makes bytes readable right away. -/
def inject (l : Line) (bytes : Bytes) : Line := { l with input := l.input ++ bytes }

/-- Records a send and releases a reply; a closed line takes nothing. -/
def send (data : Bytes) (_ : Timeout) : Op Line Unit := do
  let l ← get
  if l.closed then throw .io
  set { l with
    sent := l.sent ++ [data], input := l.input ++ l.replies.headD [], replies := l.replies.drop 1 }

/-- Reads bytes that are all there. -/
def receive (n : Nat) (_ : Timeout) (watched : Bool) : Op (Watched Line) Bytes := do
  let w ← get
  if n ≤ w.hardware.input.length then
    set { w with hardware := { w.hardware with input := w.hardware.input.drop n } }
    return w.hardware.input.take n
  if watched && w.signal.raised then
    set { w with signal := w.signal.take.2 }
    throw .operationAborted
  throw .timeout

instance : SerialPort Line where
  setSpeed n := modify fun l => { l with speed := n }
  flush _ := modify fun l => { l with input := [], flushes := l.flushes + 1 }
  send := send
  receive := receive
  close l := { l with closed := true }

end Line

end NearField.Simulated
