import NearField.Simulated.ChipScript
import NearField.Simulated.Desk
import NearField.Simulated.Pipe

/-!
# Traces

What simulated hardware saw, whatever is built on top of it.
-/

namespace NearField.Simulated

/-- A state whose hardware recorded events. -/
class Traced (σ : Type) (ε : outParam Type) where
  /-- The events, oldest first. -/
  events : σ → List ε
  /-- Forgets the events. -/
  forget : σ → σ

section

variable {σ ε κ : Type} [Traced σ ε]

instance : Traced ChipScript ChipEvent := ⟨ChipScript.events, fun s => { s with events := [] }⟩

instance : Traced RecordedPipe PipeEvent := ⟨RecordedPipe.events, fun s => { s with events := [] }⟩

instance : Traced Bench BenchEvent := ⟨Bench.events, fun s => { s with events := [] }⟩

instance : Traced BareReader Empty := ⟨fun _ => [], id⟩

instance : Traced ScriptedReader Empty := ⟨fun _ => [], id⟩

instance : Traced (σ × κ) ε := ⟨fun s => Traced.events s.1, fun s => (Traced.forget s.1, s.2)⟩

instance : Traced (Watched σ) ε := ⟨fun w => Traced.events w.hardware, Watched.map Traced.forget⟩

instance : Traced (Arygon.Link σ) ε :=
  ⟨fun l => Traced.events l.line, Arygon.Link.map Traced.forget⟩

instance : Traced (Usb.Link σ) ε :=
  ⟨fun l => Traced.events l.pipe, fun l => { l with pipe := Traced.forget l.pipe }⟩

instance : Traced (Pn53x.Chip σ) ε :=
  ⟨fun c => Traced.events c.link, Pn53x.Chip.mapLink Traced.forget⟩

instance : Traced (Pcsc.Connection σ) ε :=
  ⟨fun c => Traced.events c.channel, Pcsc.Connection.mapChannel Traced.forget⟩

instance : Traced (Device σ) ε := ⟨fun d => Traced.events d.backend, Device.map Traced.forget⟩

instance : Traced (Session σ) ε := ⟨fun s => Traced.events s.reader, Session.map Traced.forget⟩

instance : Traced Desk BenchEvent :=
  ⟨fun d => Traced.events d.bench, fun d => { d with bench := Traced.forget d.bench }⟩

end

end NearField.Simulated
