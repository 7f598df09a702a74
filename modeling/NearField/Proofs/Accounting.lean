import NearField.Proofs.Serial.Sliced
import NearField.Proofs.Usb.Interruption

/-!
# The account of aborts

The transports look at the signal of a device at different points: the serial link while it
waits for the first bytes of a reply, the dongle at the end of each silent slice.  Over both, all
handles of a device make the same requests, and no more calls end in an abort than requests were
made (`abort_accounting`).

What a request comes to in a call is up to the hardware as well.  A dongle looks at the signal
itself, so a request is not spent on a call that finds the transfer it waits for, and is spent on a
receiver that finds none.  A serial link leaves the signal to its port.  It spares a request where
a `PromptPort` hands out what is there, and spends it where a `WatchfulPort` gives up a wait, unless
it was given no room for a reply.  A port that is read in slices is watchful, and not prompt
(`abort_unlike`).
-/

namespace NearField
open Simulated

/-- **Requests to abort are accounted for** over both transports, on any hardware that takes what
it reports as an abort from the signal.  Beyond that a serial port has to hand out the bytes that
are there for a request to be spared, and to wait with an eye on the signal for it to be spent. -/
theorem abort_accounting (σ υ : Type) [SerialPort σ] [InterruptiblePort σ] [BulkPipe υ]
    [InterruptiblePipe υ] (m : Usb.Model) :
    let serial : Transport σ := Arygon.Link.transport
    let bulk : Transport υ := Usb.Link.transport m
    (serial.Accounting ∧ bulk.Accounting) ∧
      ((∀ [PromptPort σ], serial.SparesRequests fun p => 5 ≤ (PromptPort.input p).length) ∧
        bulk.SparesRequests InterruptiblePipe.Queued) ∧
      ((∀ [WatchfulPort σ], serial.SpendsRequests (WatchfulPort.Silent 5) (· ≠ 0)) ∧
        bulk.SpendsRequests InterruptiblePipe.Silent fun _ => True) :=
  ⟨⟨Arygon.Link.honest_transport.accounting, (Usb.Link.honest_transport m).accounting⟩,
    ⟨Arygon.Link.sparesRequests, Usb.Link.sparesRequests m⟩,
    Arygon.Link.spendsRequests, Usb.Link.spendsRequests m⟩

/-- On silent hardware both receivers end in an abort, and without a further request the signal is
quiet then.  A serial port that has the header of a reply to hand out leaves the request pending. -/
theorem abort_accounting_silent :
    let port : Watched (Interrupted Line) := ⟨{ hardware := {}, plan := [(0, 1)] }, ⟨true⟩⟩
    let begun : Watched (Interrupted Line) :=
      ⟨{ hardware := { input := [0x00, 0x00, 0xFF, 0x02, 0xFE] } }, ⟨true⟩⟩
    let pipe : Watched (Interrupted Pipe) := ⟨{ hardware := {} }, ⟨true⟩⟩
    let replied := (Usb.Link.transport .askLogo).receive 16 0x02 .default pipe
    (Arygon.Link.transport.receive 16 0x02 .default port).result = .error .operationAborted ∧
      (replied.result = .error .operationAborted ∧ replied.state.signal.raised = false) ∧
      (Arygon.Link.transport.receive 16 0x02 .default begun).Spared := by
  intro port begun pipe replied
  obtain ⟨-, ⟨hspares, -⟩, hspends, hbulk⟩ :=
    abort_accounting (Interrupted Line) (Interrupted Pipe) .askLogo
  have hport := hspends port rfl (Nat.zero_lt_succ 4) 16 0x02 .default (by decide) (by decide)
  have hpipe := hbulk pipe rfl rfl 16 0x02 .default trivial (by decide)
  exact ⟨hport.1, ⟨hpipe.1, hpipe.2 rfl⟩, (hspares begun rfl (Nat.le_refl 5)).2 16 0x02 .default⟩

/-- Two receivers on which a request comes to something else.  One was given no room for a reply,
and does not notice the request on a silent line.  The other finds a whole reply on a port that is
read in slices, which takes the request all the same. -/
theorem abort_unlike :
    let silent : Watched Line := ⟨{}, ⟨true⟩⟩
    let replied : Watched (Sliced Line) :=
      ⟨⟨{ input := Frame.encodeReply 0x02 [0x32, 0x01, 0x06, 0x07] }⟩, ⟨true⟩⟩
    (Arygon.Link.transport.receive 0 0x02 .default silent).result = .error .invalidArgument ∧
      (Arygon.Link.transport.receive 16 0x02 .default replied).result =
          .error .operationAborted ∧
        (Arygon.Link.transport.receive 16 0x02 .default replied).state.signal.raised = false := by
  intro silent replied
  have hempty : (Arygon.Link.receive 0 0x02 .default ⟨silent⟩).result =
      .error .invalidArgument := by
    rw [Arygon.Link.receive_empty]
    rfl
  have hspent := Arygon.Link.spendsRequests replied rfl (Nat.succ_ne_zero 4) 16 0x02 .default
    (by decide) (by decide)
  -- nobody else waits for the line, so no further request is made
  have hrequests (w : Watched (Sliced Line)) : w.requests = 0 := rfl
  exact ⟨hempty, hspent.1, hspent.2 ((hrequests _).trans (hrequests _).symm)⟩

end NearField
