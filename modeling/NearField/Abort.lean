/-!
# Abort signals

An abort signal is raised from another thread to cancel a blocking call, and is consumed by the
call that notices it, so one request cancels one call.  `Watched` is a piece of hardware
together with the signal that its blocking calls watch.
-/

namespace NearField

/-- A flag that asks a blocking call to give up. -/
structure AbortSignal where
  raised : Bool := false
  deriving DecidableEq, Repr

namespace AbortSignal

/-- Asks for an abort. -/
def raise (_ : AbortSignal) : AbortSignal := ⟨true⟩

/-- Consumes a pending request: whether there was one, and the quiet signal. -/
def take (s : AbortSignal) : Bool × AbortSignal := (s.raised, ⟨false⟩)

end AbortSignal

/-- Hardware and the signal that is raised to interrupt it. -/
structure Watched (σ : Type) where
  hardware : σ
  signal : AbortSignal := ⟨false⟩
  deriving DecidableEq, Repr

namespace Watched

variable {σ τ : Type}

/-- Exchanges the hardware behind a signal. -/
def map (f : σ → τ) (w : Watched σ) : Watched τ := ⟨f w.hardware, w.signal⟩

/-- Raises the signal. -/
def raise (w : Watched σ) : Watched σ := { w with signal := w.signal.raise }

end Watched

/-- Signals and the handles that lead to them; clones of a handle lead to the same signal. -/
structure AbortHandles where
  signals : List AbortSignal := [⟨false⟩]
  handles : List Nat := [0]
  deriving DecidableEq, Repr

namespace AbortHandles

/-- The place of the signal that handle `h` leads to. -/
def place (p : AbortHandles) (h : Nat) : Nat := p.handles.getD h 0

/-- Whether the signal of handle `h` is raised. -/
def isAborted (p : AbortHandles) (h : Nat) : Bool := (p.signals.getD (p.place h) ⟨false⟩).raised

/-- A new signal with its first handle. -/
def new (p : AbortHandles) : AbortHandles :=
  ⟨p.signals ++ [⟨false⟩], p.handles ++ [p.signals.length]⟩

/-- A further handle to the signal of handle `h`. -/
def clone (p : AbortHandles) (h : Nat) : AbortHandles :=
  { p with handles := p.handles ++ [p.place h] }

/-- Raises the signal of handle `h`. -/
def abort (p : AbortHandles) (h : Nat) : AbortHandles :=
  { p with signals := p.signals.modify (p.place h) AbortSignal.raise }

/-- Consumes the request behind handle `h`. -/
def take (p : AbortHandles) (h : Nat) : Bool × AbortHandles :=
  (p.isAborted h, { p with signals := p.signals.modify (p.place h) fun s => s.take.2 })

/-- What every handle reports. -/
def report (p : AbortHandles) : List Bool := (List.range p.handles.length).map p.isAborted

end AbortHandles

end NearField
