import NearField.Proofs.Arygon.Exchange
import NearField.Proofs.Pn53x.Call
import NearField.Proofs.Usb.Exchange

/-!
# The transports are interchangeable

A chip that answers every command is given to the chip layer once over a serial line and once
over a bulk pipe.  The serial answer is one piece, the acknowledgement and the reply behind it;
on the pipe they are a transfer each.  Every exchange ends alike over both (`simulates_carry`),
whether the reply fits, is to another command or does not come at all, and a command that is too
long is refused by both.  So the chip layer can not tell them apart (`transports_interchangeable`).
-/

namespace NearField
open Simulated Pn53x

/-- What a chip answers on a serial line: the command that it answers, and the parameters. -/
def serialAnswer (r : UInt8 × Bytes) : Bytes := Frame.ack ++ Frame.encodeReply r.1 r.2

/-- What a chip answers on a bulk pipe, as transfers. -/
def bulkAnswer (r : UInt8 × Bytes) : List Bytes := [Frame.ack, Frame.encodeReply r.1 r.2]

/-- A line and a pipe that are open, have the same answers to come, and had the same frames sent,
behind the selector on the line.  No abort is pending on the pipe. -/
structure InStep (l : Arygon.Link Line) (u : Usb.Link Pipe) : Prop where
  lineOpen : l.line.hardware.closed = false
  pipeOpen : u.pipe.hardware.closed = false
  quiet : u.pipe.signal.raised = false
  answers : ∃ script : List (UInt8 × Bytes), (∀ r ∈ script, r.2.length ≤ 253) ∧
    l.line.hardware.replies = script.map serialAnswer ∧
      u.pipe.hardware.reads = script.flatMap bulkAnswer
  sent : l.line.hardware.sent = u.pipe.hardware.written.map (Arygon.chipSelector :: ·)

namespace InStep

variable {l : Arygon.Link Line} {u : Usb.Link Pipe}

/-- They are in step again after a command and the answer to it, whatever is left to be read on
the line. -/
theorem sending (h : InStep l u) (script : List (UInt8 × Bytes))
    (hscript : ∀ r ∈ script, r.2.length ≤ 253)
    (hreplies : l.line.hardware.replies.drop 1 = script.map serialAnswer) (data old : Bytes)
    (clock : Nat) :
    InStep (l.sending data old) ((u.sending data (script.flatMap bulkAnswer)).atClock clock) where
  lineOpen := h.lineOpen
  pipeOpen := h.pipeOpen
  quiet := h.quiet
  answers := ⟨script, hscript, hreplies, rfl⟩
  sent := by
    change _ ++ [Arygon.Link.wire data] = List.map _ (_ ++ [Frame.wrap (Frame.hostTfi :: data)])
    rw [List.map_append, h.sent]
    rfl

end InStep

/-- **Every exchange ends alike** over a line and a pipe that are in step. -/
theorem simulates_carry (code : UInt8) (params : Bytes) {t : Timeout} (ht : t ≠ .millis 0) :
    Act.Simulates InStep (carry code params t) (carry code params t) := by
  intro l u h
  -- both refuse a command that is too long, are silent alike, or hear the same reply
  rcases Nat.lt_or_ge Frame.maxData (code :: params).length with hlong | hlen
  · exact (Arygon.Link.fails_carry_long hlong t).alike (Usb.Link.fails_carry_long hlong t) h
  · obtain ⟨_ | ⟨⟨other, reply⟩, script⟩, hscript, hreplies, hreads⟩ := h.answers
    · obtain ⟨clock, hbulk⟩ : ∃ clock, (carry code params t).Fails u .timeout _ :=
        Usb.Link.fails_carry_silent hlen h.pipeOpen hreads h.quiet t
      have hserial := Arygon.Link.fails_carry_silent hlen h.lineOpen hreplies t
      exact hserial.alike hbulk (h.sending [] nofun (by rw [hreplies]; rfl) _ _ clock)
    · have hreply : reply.length ≤ 253 := hscript _ List.mem_cons_self
      have hstep (old : Bytes) : InStep (l.sending (code :: params) old)
          (u.sending (code :: params) (script.flatMap bulkAnswer)) :=
        h.sending script (fun r hr => hscript r (List.mem_cons_of_mem _ hr))
          (by rw [hreplies]; rfl) _ old u.pipe.hardware.clock
      -- a reply to another command is refused over both
      by_cases hother : other = code
      · subst hother
        have hserial := Arygon.Link.yields_carry hlen hreply h.lineOpen hreplies t
        exact hserial.alike (Usb.Link.yields_carry hlen hreply h.pipeOpen hreads ht) (hstep _)
      · have hserial :=
          Arygon.Link.fails_carry_foreign hother hlen hreply h.lineOpen hreplies t
        exact hserial.alike
          (Usb.Link.fails_carry_foreign hother hlen hreply h.pipeOpen hreads ht) (hstep _)

theorem interchange_inStep :
    Interchange (Chip.UsualWithin (· ≠ .millis 0)) (· ≠ .millis 0) InStep where
  carry code params _ ht := simulates_carry code params ht
  usual h := h
  endless := nofun

/-- **The transports are interchangeable** under the chip layer.  A chip gives the same answers
over a serial line and over a bulk pipe.  Then calls that never use a timeout of zero
milliseconds end alike over both, one after the other, the host knows the same about the chip
afterwards, and the frames on the line are those on the pipe behind the selector.  It does not
matter whether the answers are to the commands that are sent, and whether there are enough of
them. -/
theorem transports_interchangeable (k : Chip Unit) (old : Bytes) (model : Usb.Model)
    (script : List (UInt8 × Bytes)) (calls : List (Sigma Chip.Call))
    (hscript : ∀ r ∈ script, r.2.length ≤ 253) (hk : k.commandTimeout ≠ .millis 0)
    (hcalls : ∀ call ∈ calls, ∀ t ∈ call.2.timeouts, t ≠ .millis 0) :
    let line : Line := { input := old, replies := script.map serialAnswer }
    let pipe : Pipe := { reads := script.flatMap bulkAnswer }
    let serial := Chip.results calls (k.withLink (⟨{ hardware := line }⟩ : Arygon.Link Line))
    let bulk := Chip.results calls (k.withLink (⟨{ hardware := pipe }, model⟩ : Usb.Link Pipe))
    serial.1 = bulk.1 ∧ serial.2.host = bulk.2.host ∧
      serial.2.link.line.hardware.sent =
        bulk.2.link.pipe.hardware.written.map (Arygon.chipSelector :: ·) := by
  intro line pipe serial bulk
  have hstep : InStep ⟨{ hardware := line }⟩ ⟨{ hardware := pipe }, model⟩ :=
    ⟨rfl, rfl, rfl, ⟨script, hscript, rfl, rfl⟩, rfl⟩
  have hpaired : Paired (Chip.UsualWithin (· ≠ .millis 0)) InStep
      (k.withLink ⟨{ hardware := line }⟩) (k.withLink ⟨{ hardware := pipe }, model⟩) :=
    ⟨rfl, hk, hstep⟩
  obtain ⟨hresults, hlast⟩ := Chip.results_eq interchange_inStep calls hcalls hpaired
  exact ⟨hresults, hlast.host, hlast.link.sent⟩

/-- A chip that says what it is and finds a tag is asked alike over both, and the line carries
the firmware question behind the selector. -/
theorem transports_interchangeable_identify :
    let script : List (UInt8 × Bytes) :=
      [(getFirmwareVersion, [0x32, 0x01, 0x06, 0x07]), (inListPassiveTarget, [0x00])]
    let calls : List (Sigma Chip.Call) :=
      [⟨_, .identify⟩, ⟨_, .selectPassive ⟨.iso14443a, .kbps106⟩ []⟩]
    let k : Chip Unit := { link := () }
    let serial := Chip.results calls
      (k.withLink (⟨{ hardware := { replies := script.map serialAnswer } }⟩ : Arygon.Link Line))
    let bulk := Chip.results calls
      (k.withLink (⟨{ hardware := { reads := script.flatMap bulkAnswer } }, .nxpPn533⟩ :
        Usb.Link Pipe))
    serial.1 = bulk.1 ∧ serial.2.host = bulk.2.host ∧ bulk.2.kind = .pn532 := by
  intro script calls k serial bulk
  have hscript : ∀ r ∈ script, r.2.length ≤ 253 := by decide
  have hcalls : ∀ call ∈ calls, ∀ t ∈ call.2.timeouts, t ≠ .millis 0 := by
    simp [calls, Chip.Call.timeouts]
  obtain ⟨hresults, hhost, -⟩ :=
    transports_interchangeable k [] .nxpPn533 script calls hscript (by decide) hcalls
  have hkind : bulk.2.kind = .pn532 := by decide +kernel
  exact ⟨hresults, hhost, hkind⟩

end NearField
