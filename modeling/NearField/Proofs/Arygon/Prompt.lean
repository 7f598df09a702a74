import NearField.Proofs.Arygon.Exchange
import NearField.Proofs.Interruption

/-!
# Ports that hand out what is there

A read of bytes that are there need not wait, so a request to abort has no part in it.  A
`PromptPort` sees it that way: it hands out the bytes before it looks at the signal.  Over such a
port a whole reply is received in full while a request is pending (`supplies_available`).  Not every
port is one: a `Sliced` port looks at the signal in front of each slice.
-/

namespace NearField

/-- A serial port that hands out the bytes that are there before it looks at the signal. -/
class PromptPort (σ : Type) [SerialPort σ] where
  /-- The bytes that are there. -/
  input : σ → Bytes
  /-- A read of no more bytes than are there takes them, in order. -/
  receive {n : Nat} {w : Watched σ} (h : n ≤ (input w.hardware).length) (t : Timeout)
    (watched : Bool) :
    let o := SerialPort.receive n t watched w
    o.result = .ok ((input w.hardware).take n) ∧
      input o.state.hardware = (input w.hardware).drop n

namespace Arygon.Link

variable {σ : Type} [SerialPort σ] [PromptPort σ]

/-- The bytes that are there on the port of a link. -/
def available (l : Link σ) : Bytes := PromptPort.input l.line.hardware

/-- A link hands out the bytes that are there on its port, also while an abort is pending. -/
theorem supplies_available : Supplies fun s (l : Link σ) => l.available = s := by
  intro piece rest l hl t watched
  have hlength : piece.length ≤ (PromptPort.input l.line.hardware).length := by
    rw [show PromptPort.input l.line.hardware = piece ++ rest from hl, List.length_append]
    exact Nat.le_add_right _ _
  obtain ⟨hresult, hinput⟩ := PromptPort.receive hlength t watched
  rw [show PromptPort.input l.line.hardware = piece ++ rest from hl] at hresult hinput
  rw [List.take_left] at hresult
  rw [List.drop_left] at hinput
  exact ⟨_, ⟨hresult, rfl⟩, hinput⟩

end Arygon.Link

/-! ## Ports -/

namespace Simulated.Line

instance : PromptPort Line where
  input l := l.input
  receive {n w} h t watched := by
    have hyields : (Line.receive n t watched).Yields w _ _ := yields_receive.mpr ⟨h, rfl, rfl⟩
    exact ⟨hyields.1, congrArg (fun w : Watched Line => w.hardware.input) hyields.2⟩

end Simulated.Line

namespace Interrupted

variable {σ : Type} [SerialPort σ]

instance : SerialPort (Interrupted σ) where
  setSpeed bauds := below (SerialPort.setSpeed bauds)
  flush wait := below (SerialPort.flush wait)
  send bytes t := below (SerialPort.send bytes t)
  receive n t watched := reading (SerialPort.receive n t watched)
  close i := { i with hardware := SerialPort.close i.hardware }
  clock i := SerialPort.clock i.hardware

/-- Requests that are made around a read do not take anything from what it hands out. -/
instance [PromptPort σ] : PromptPort (Interrupted σ) where
  input i := PromptPort.input i.hardware
  receive {n w} h t watched := by
    let v := (begin w).map Interrupted.hardware
    have hv : PromptPort.input v.hardware = PromptPort.input w.hardware.hardware :=
      congrArg PromptPort.input (hardware_begin w)
    have hroom : n ≤ (PromptPort.input v.hardware).length := hv ▸ h
    obtain ⟨hresult, hinput⟩ := PromptPort.receive hroom t watched
    rw [hv] at hresult hinput
    refine ⟨(reading_result _ w).trans hresult, ?_⟩
    change PromptPort.input (reading (SerialPort.receive n t watched) w).state.hardware.hardware = _
    rw [reading_state, hardware_request]
    exact hinput

end Interrupted

end NearField
