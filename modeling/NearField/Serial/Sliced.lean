import NearField.Error
import NearField.Hex
import NearField.Serial.Port

/-!
# Serial lines of the host

A line of the host is read in short slices, so that a request to abort is noticed within one of
them.  In front of each slice the port looks for a request, then for the end of its time, and only
then for bytes.  So a request that is pending wins over bytes that are there.
-/

namespace NearField

/-- Why a slice of waiting for a line brings no bytes. -/
inductive SliceFailure where
  | interrupted
  | system (f : SystemFailure)
  deriving DecidableEq, Repr

namespace SliceFailure

/-- Whether another slice may follow: nothing came in this one, or it was cut short. -/
def passes : SliceFailure → Bool
  | .interrupted | .system .timedOut => true
  | .system _ => false

/-- The library error for a slice that failed. -/
def toError : SliceFailure → Error
  | .interrupted => .io
  | .system f => f.toError

end SliceFailure

/-- A serial line as the operating system has it, with state `σ`. -/
class HostLine (σ : Type) where
  /-- Sets the speed in bauds. -/
  setSpeed : UInt32 → Act SystemFailure σ Unit
  /-- Sets how long a call may take, in milliseconds. -/
  setTimeout : Nat → Act SystemFailure σ Unit
  /-- Discards the input that has come. -/
  clear : Act SystemFailure σ Unit
  /-- Writes all bytes. -/
  write : Bytes → Act SystemFailure σ Unit
  /-- Reads so many bytes at most, within one slice.  The signal may be raised meanwhile. -/
  read : Nat → Act SliceFailure (Watched σ) Bytes
  /-- The microseconds that have passed while the line was waited for. -/
  clock : σ → Nat := fun _ => 0

/-- A line of the host that is read in slices. -/
structure Sliced (σ : Type) where
  line : σ
  deriving DecidableEq, Repr

namespace Sliced

variable {σ α : Type}

/-- The length of a slice of waiting in milliseconds. -/
def slice : Nat := 30

/-- The number of slices after which a wait without end is cut.  The loop that waits has no such
end. -/
def endlessSlices : Nat := Nat.pow 2 64

/-- Runs an action of the line. -/
def onLine {ε : Type} (a : Act ε σ α) : Act ε (Sliced σ) α :=
  a.zoom Sliced.line fun l _ => ⟨l⟩

/-- Runs an action of the line, whose failures are those of the library then. -/
def calling (a : Act SystemFailure σ α) : Op (Sliced σ) α :=
  (onLine a).mapError SystemFailure.toError

/-- Runs an action of the line with the signal. -/
def watching {ε : Type} (a : Act ε (Watched σ) α) : Act ε (Watched (Sliced σ)) α :=
  a.zoom (Watched.map Sliced.line) fun v _ => v.map Sliced.mk

/-- Takes a request to abort that is pending, and gives up for it. -/
def heed : Op (Watched σ) Unit := do
  let w ← get
  if w.signal.raised then
    set { w with signal := w.signal.take.2 }
    Act.log .debug Log.uartTopic "Abort request received"
    throw .operationAborted

/-- Looks for a request, if the signal is given, and then for the end of the time. -/
def beforeSlice (watched : Bool) (left : Option Nat) : Op (Watched σ) Unit := do
  if watched then heed
  if left = some 0 then
    Act.log .debug Log.uartTopic "Timeout!"
    throw .timeout

variable [HostLine σ]

/-- Writes bytes within a timeout.  What the line reports when the length of a slice is set again
wins over what became of the bytes. -/
def send (data : Bytes) (timeout : Timeout) : Op (Sliced σ) Unit := do
  Act.log .trace Log.uartTopic ("TX: " ++ Hex.spaced data)
  if let some ms := timeout.duration? then
    calling (HostLine.setTimeout ms)
  let written ← (calling (HostLine.write data)).attempt
  calling (HostLine.setTimeout slice)
  Act.ofExcept written

/-- Reads so many bytes at most within a slice, and gives the microseconds that passed.  A slice
without bytes takes at least one of them. -/
def readSlice (n : Nat) : Op (Watched (Sliced σ)) (Bytes × Nat) := do
  let before := HostLine.clock (← get).hardware.line
  let read ← (watching (HostLine.read n)).attempt
  let passed := HostLine.clock (← get).hardware.line - before
  match read with
  | .ok [] => throw .io
  | .ok bytes => return (bytes, passed)
  | .error e => if e.passes then return ([], max 1 passed) else throw e.toError

/-- Reads so many bytes in slices, for the given number of slices at most.  `left` counts the
microseconds that remain. -/
def readSlices (watched : Bool) : Nat → Option Nat → Nat → Op (Watched (Sliced σ)) Bytes
  | _, _, 0 => pure []
  | 0, _, _ + 1 => throw .timeout
  | slices + 1, left, missing + 1 => do
    beforeSlice watched left
    let (bytes, passed) ← readSlice (missing + 1)
    let rest ← readSlices watched slices (left.map (· - passed)) (missing + 1 - bytes.length)
    return bytes ++ rest

/-- Reads so many bytes within a timeout. -/
def receive (n : Nat) (timeout : Timeout) (watched : Bool) : Op (Watched (Sliced σ)) Bytes := do
  let bytes ← match timeout.duration? with
    | some ms => readSlices watched (n + ms * 1000 + 1) (some (ms * 1000)) n
    | none => readSlices watched (n + endlessSlices) none n
  Act.log .trace Log.uartTopic ("RX: " ++ Hex.spaced bytes)
  return bytes

instance : SerialPort (Sliced σ) where
  setSpeed bauds := do
    Act.log .debug Log.uartTopic
      ("Serial port speed requested to be set to " ++ toString bauds ++ " baud.")
    calling (HostLine.setSpeed bauds)
  flush _ := calling HostLine.clear
  send := send
  receive := receive
  close := id
  clock s := HostLine.clock s.line

end Sliced

end NearField
