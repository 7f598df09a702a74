import NearField.Proofs.Arygon.InRange
import NearField.Proofs.Pn53x.InRange
import NearField.Proofs.Usb.InRange
import NearField.Simulated.ChipScript
import NearField.Simulated.Line
import NearField.Simulated.Pipe

/-!
# Replies stay in range

The chip layer and the links below it take slices and elements of what they are replied.  None of
these accesses is out of range (`replies_inRange`), over any link that reports no more bytes than it
is given room for, over a serial line with any bytes on it, and over a bulk pipe with any transfers.
The lines and pipes in memory are such hardware (`exact_line`, `within_pipe`).
-/

namespace NearField

open Pn53x Simulated

/-- **No reply breaks the chip layer.**  Whatever operations are run, over any link that keeps to
the room it is given, over a serial link and over a bulk link, no access on a reply is out of
range, and checking them makes no difference.  Neither is an access on the text that a serial
reader gives for its firmware. -/
theorem replies_inRange :
    (∀ (τ : Type) [ChipLink τ], Bounded τ → Chip.GetsThrough (Guards.bare τ)) ∧
      (∀ (σ : Type) [SerialPort σ], Arygon.Exact σ →
        Chip.GetsThrough (Arygon.Guarding.guards : Guards (Arygon.Link σ)) ∧
          ∀ l : Arygon.Link σ, (Arygon.Guarding.firmware l).result =
            (Arygon.Link.firmware l).result.mapError .error) ∧
      ∀ (σ : Type) [BulkPipe σ], Usb.Within σ →
        Chip.GetsThrough (Usb.Guarding.guards : Guards (Usb.Link σ)) := by
  refine ⟨fun τ _ h => ?_, fun σ _ h => ⟨?_, fun l => ?_⟩, fun σ _ h => ?_⟩
  · exact Chip.getsThrough_of_sound (sound_bare h)
  · exact Chip.getsThrough_of_sound (Arygon.Guarding.sound_guards h)
  · exact (Arygon.Guarding.passes_firmware h l l rfl).1
  · exact Chip.getsThrough_of_sound (Usb.Guarding.sound_guards h)

/-! ## Hardware in memory -/

namespace Simulated

/-- A script hands up no more bytes than it is asked for. -/
theorem bounded_script : Bounded ChipScript := by
  intro capacity code t
  refine .after fun s => ?_
  split
  · refine .after fun _ => (Act.gives_require _ _).bind fun _ hroom => ?_
    exact Act.gives_pure (of_decide_eq_true hroom)
  · exact .after fun _ => Act.gives_throw _
  · exact Act.gives_throw _

/-- A line in memory reads as many bytes as it is asked for. -/
theorem exact_line : Arygon.Exact Line := by
  intro n t watched
  change Act.Gives _ (Line.receive n t watched)
  refine .after fun w => ?_
  by_cases hn : n ≤ w.hardware.input.length
  · rw [if_pos hn]
    exact .after fun _ => Act.gives_pure (List.length_take_of_le hn)
  · rw [if_neg hn]
    exact .ite (.after fun _ => .after fun _ => Act.gives_throw _) (Act.gives_throw _)

/-- A pipe in memory reads no more bytes than there is room for. -/
theorem within_pipe : Usb.Within Pipe := by
  intro room micros
  refine .zoom (.after fun p => ?_)
  split
  · exact .after fun _ => Act.gives_throw _
  · rename_i transfer rest _
    refine .after fun _ => ?_
    by_cases hlong : room < transfer.length
    · rw [if_pos hlong]
      exact .bind (Act.gives_throw _) fun _ hnever => hnever
    · rw [if_neg hlong]
      exact Act.gives_pure (Nat.not_lt.mp hlong)

end Simulated

/-- Over hardware in memory, a chip is survived that leaves out the status byte, or describes a
target and stops too early; and so is a reader that claims more text than fits. -/
theorem replies_inRange_simulated :
    let exchange : Chip.Call Bytes := .transceiveBytes [0x30] 16 .default
    let select : Chip.Call (Option Target) := .selectPassive ⟨.iso14443a, .kbps106⟩ []
    let script : ChipScript := { replies := [.payload [], .payload [0x01, 0x01, 0x00]] }
    let line : Line := { replies := [Frame.ack ++ Frame.encodeReply inDataExchange []] }
    let reader : Line :=
      { replies := [Arygon.noError.take 6 ++ [0x30, 0x39] ++ List.replicate 8 0x56] }
    let pipe : Pipe :=
      { reads := [Frame.ack, Frame.encodeReply inListPassiveTarget [0x01, 0x01, 0x00]] }
    (Guarded.runAll [.call ⟨_, exchange⟩, .call ⟨_, select⟩]
        (Chip.guarded (Guards.bare ChipScript) { link := script })).result = .ok () ∧
      (Guarded.call exchange (Chip.guarded Arygon.Guarding.guards
        { link := ⟨{ hardware := line }⟩ })).result = .error (.error .io) ∧
      (Arygon.Guarding.firmware ⟨{ hardware := reader }⟩).result = .ok "" ∧
      (Guarded.call select (Chip.guarded Usb.Guarding.guards
        { link := ⟨{ hardware := pipe }, .nxpPn533⟩ })).result = .error (.error .io) := by
  intro exchange select script line reader pipe
  obtain ⟨hscript, hline, hpipe⟩ := replies_inRange
  refine ⟨?_, ?_, ?_, ?_⟩
  · exact (hscript ChipScript bounded_script _ _).1
  · refine (((hline Line exact_line).1 [] _).2.2 _ exchange).trans ?_
    decide +kernel
  · refine ((hline Line exact_line).2 _).trans ?_
    rfl
  · refine ((hpipe Pipe within_pipe [] _).2.2 _ select).trans ?_
    rfl

end NearField
