import NearField.Simulated.Faults
import NearField.Usb.Link

/-!
# Simulated bulk pipes

A pipe in memory: writes are recorded, reads take scripted transfers.  A read from an empty
pipe waits ten milliseconds, or its whole time if that is shorter, and times out.
`RecordedPipe` adds planned faults and the events of the pipe.
-/

namespace NearField.Simulated

/-- A bulk pipe in memory; its clock counts microseconds of waiting. -/
structure Pipe where
  written : List Bytes := []
  reads : List Bytes := []
  closed : Bool := false
  clock : Nat := 0
  deriving DecidableEq, Repr

namespace Pipe

/-- How long an empty pipe waits, in microseconds. -/
def wait : Nat := 10000

/-- Scripts a transfer. -/
def script (p : Pipe) (transfer : Bytes) : Pipe := { p with reads := p.reads ++ [transfer] }

/-- Records a transfer; a closed pipe takes nothing. -/
def write (data : Bytes) (_ : Nat) : Op Pipe Nat := do
  let p ← get
  if p.closed then throw .io
  set { p with written := p.written ++ [data] }
  return data.length

/-- Takes the next transfer; one that is too long is lost. -/
def read (capacity micros : Nat) : Op Pipe Bytes := do
  let p ← get
  match p.reads with
  | [] =>
    set { p with clock := p.clock + min micros wait }
    throw .timeout
  | transfer :: rest =>
    set { p with reads := rest }
    if capacity < transfer.length then throw .bufferOverflow
    return transfer

/-- Runs an action of hardware below its signal. -/
def below {σ α : Type} (a : Op σ α) : Op (Watched σ) α :=
  a.zoom Watched.hardware fun h w => { w with hardware := h }

instance : BulkPipe Pipe where
  write := write
  read capacity micros := below (read capacity micros)
  close p := { p with closed := true }
  clock := Pipe.clock

end Pipe

/-- What a recorded pipe saw. -/
inductive PipeEvent where
  | write (data : Bytes) (millis : Nat)
  | close
  deriving DecidableEq, Repr

/-- A pipe that records what is written to it and fails as planned. -/
structure RecordedPipe where
  pipe : Pipe := {}
  faults : Faults WireFault := {}
  events : List PipeEvent := []
  deriving DecidableEq, Repr

namespace RecordedPipe

/-- Takes the planned fault of a call. -/
def takeFault (call : String) : Op RecordedPipe (Option WireFault) := do
  let r ← get
  set { r with faults := (r.faults.next call).2 }
  return (r.faults.next call).1

/-- Runs an action of the pipe itself. -/
def onPipe {α : Type} (a : Op Pipe α) : Op RecordedPipe α :=
  a.zoom RecordedPipe.pipe fun p r => { r with pipe := p }

/-- Records and writes a transfer. -/
def write (data : Bytes) (millis : Nat) : Op RecordedPipe Nat := do
  modify fun r => { r with events := r.events ++ [.write data millis] }
  match ← takeFault "write" with
  | some (.fails e) => throw e
  | _ => onPipe (Pipe.write data millis)

/-- Reads a transfer, unless a fault is planned. -/
def read (capacity micros : Nat) : Op (Watched RecordedPipe) Bytes := do
  match ← Pipe.below (takeFault "read") with
  | some (.fails e) => throw e
  | some .aborts =>
    modify Watched.raise
    throw .timeout
  | none => Pipe.below (onPipe (Pipe.read capacity micros))

instance : BulkPipe RecordedPipe where
  write := write
  read := read
  close r := { r with pipe := BulkPipe.close r.pipe, events := r.events ++ [.close] }
  clock r := r.pipe.clock

end RecordedPipe

end NearField.Simulated
