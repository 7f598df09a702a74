import NearField.Proofs.Arygon.Stream
import NearField.Proofs.Usb.Transfer

/-!
# The receivers agree

The serial receiver reads a reply piece by piece and checks each piece as it comes; the
receiver of a dongle decodes a whole transfer.  On the same bytes both succeed exactly when
`Frame.decode` does and the parameters fit the buffer, with the parameters that it reads, and
the serial receiver stops behind the last byte of the frame (`receivers_eq_decode`).

Over a serial line this rests on the factorization of the input that `Arygon.Link.yields_receive`
gives: what a run of the receiver takes off the line is a reply, and the decoder reads a reply
back whatever follows it.
-/

namespace NearField
open Simulated

variable {s params : Bytes} {command : UInt8} {capacity : Nat} {t : Timeout}

/-- A run of the serial receiver, as a statement on the decoder. -/
theorem Arygon.Link.yields_receive_iff_decode {l l' : Arygon.Link Line} (hcap : 1 ≤ capacity) :
    (Arygon.Link.receive capacity command t).Yields (l.holding s) params l' ↔
      Frame.decode s command = .ok params ∧ params.length ≤ capacity ∧
        9 + params.length ≤ s.length ∧ l.holding (s.drop (9 + params.length)) = l' := by
  rw [Arygon.Link.yields_receive hcap]
  refine ⟨?_, ?_⟩
  · rintro ⟨hmax, hfits, rest, rfl, rfl⟩
    refine ⟨Frame.decode_encodeReply hmax rest, hfits, ?_, ?_⟩
    · rw [List.length_append, Frame.length_encodeReply]
      exact Nat.le_add_right _ _
    · rw [← Frame.length_encodeReply command, List.drop_left]
  · rintro ⟨hdecode, hfits, -, rfl⟩
    obtain ⟨hmax, rest, rfl⟩ := Frame.eq_encodeReply_of_decode hdecode
    refine ⟨hmax, hfits, rest, rfl, ?_⟩
    rw [← Frame.length_encodeReply command, List.drop_left]

/-- **Both receivers are the decoder.**  On a line with the bytes `s` to read, and on a pipe
with the transfer `s` to come, receiving the answer to `command` succeeds with `params` exactly
when `s` decodes to them and they fit the buffer.  The serial receiver then has taken the frame
off the line, and what stands behind it is still to be read. -/
theorem receivers_eq_decode (l : Arygon.Link Line) (u : Usb.Link Pipe) (reads : List Bytes)
    (s params : Bytes) (command : UInt8) (capacity : Nat) (t : Timeout) (hcap : 1 ≤ capacity)
    (ht : t ≠ .millis 0) :
    let serial := Arygon.Link.receive capacity command t (l.holding s)
    let bulk := Usb.Link.receive capacity command t (u.holding (s :: reads))
    (serial.result = .ok params ↔
        Frame.decode s command = .ok params ∧ params.length ≤ capacity) ∧
      (s.length ≤ 262 → (bulk.result = .ok params ↔
        Frame.decode s command = .ok params ∧ params.length ≤ capacity)) ∧
      (serial.result = .ok params →
        9 + params.length ≤ s.length ∧ serial.state = l.holding (s.drop (9 + params.length))) := by
  intro serial bulk
  refine ⟨⟨fun h => ?_, fun ⟨hdecode, hfits⟩ => ?_⟩, fun hs => ⟨fun h => ?_, ?_⟩, fun h => ?_⟩
  · obtain ⟨hdecode, hfits, -⟩ := (Arygon.Link.yields_receive_iff_decode hcap).mp ⟨h, rfl⟩
    exact ⟨hdecode, hfits⟩
  · -- decoding looks behind the frame at nothing, so the whole frame is there to be read
    obtain ⟨-, rest, hs⟩ := Frame.eq_encodeReply_of_decode hdecode
    have hlen : 9 + params.length ≤ s.length := by
      rw [hs, List.length_append, Frame.length_encodeReply]
      exact Nat.le_add_right _ _
    exact ((Arygon.Link.yields_receive_iff_decode hcap).mpr ⟨hdecode, hfits, hlen, rfl⟩).1
  · obtain ⟨hdecode, hfits, -⟩ := (Usb.Link.yields_receive hs ht).mp ⟨h, rfl⟩
    exact ⟨hdecode, hfits⟩
  · rintro ⟨hdecode, hfits⟩
    exact ((Usb.Link.yields_receive hs ht).mpr ⟨hdecode, hfits, rfl⟩).1
  · obtain ⟨-, -, hlen, hstate⟩ := (Arygon.Link.yields_receive_iff_decode hcap).mp ⟨h, rfl⟩
    exact ⟨hlen, hstate.symm⟩

/-- A firmware reply with a byte behind it is received by both. -/
theorem receivers_eq_decode_firmware :
    let s := Frame.encodeReply 0x02 [0x32, 0x01, 0x06, 0x07] ++ [0xAA]
    let serial := Arygon.Link.receive 16 0x02 .default
      ((⟨{ hardware := {} }⟩ : Arygon.Link Line).holding s)
    let bulk := Usb.Link.receive 16 0x02 .default
      ((⟨{ hardware := {} }, .nxpPn533⟩ : Usb.Link Pipe).holding [s])
    serial.result = .ok [0x32, 0x01, 0x06, 0x07] ∧ bulk.result = .ok [0x32, 0x01, 0x06, 0x07] ∧
      serial.state.line.hardware.input = [0xAA] := by
  intro s serial bulk
  obtain ⟨hserial, hbulk, hrest⟩ := receivers_eq_decode ⟨{ hardware := {} }⟩
    ⟨{ hardware := {} }, .nxpPn533⟩ [] s [0x32, 0x01, 0x06, 0x07] 0x02 16 .default
    (by decide) (by decide)
  have hdecode : Frame.decode s 0x02 = .ok [0x32, 0x01, 0x06, 0x07] := by decide
  have hok := hserial.mpr ⟨hdecode, by decide⟩
  refine ⟨hok, (hbulk (by decide)).mpr ⟨hdecode, by decide⟩, ?_⟩
  rw [(hrest hok).2]
  decide

end NearField
