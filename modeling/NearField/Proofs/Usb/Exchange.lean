import NearField.Proofs.Frame.Reply
import NearField.Proofs.Pn53x.Exchange
import NearField.Proofs.Usb.Transfer

/-!
# Exchanges over a bulk pipe

A command goes out as one transfer, and the acknowledgement and the reply come as one transfer
each.  With the reply to the command itself behind an acknowledgement the exchange delivers its
parameters (`yields_carry`).  It fails if the reply is to another command, if nothing comes, and
if the command does not fit a frame.
-/

namespace NearField

namespace Usb.Link
open Simulated

variable {α : Type} {u : Link Pipe} {data : Bytes} {code : UInt8} {params : Bytes}

/-- The pipe after a command has gone out, with these transfers to come. -/
def sending (u : Link Pipe) (data : Bytes) (reads : List Bytes) : Link Pipe :=
  { u with pipe := { u.pipe with hardware := { u.pipe.hardware with
      written := u.pipe.hardware.written ++ [Frame.wrap (Frame.hostTfi :: data)],
      reads := reads } } }

/-- The pipe at another time. -/
def atClock (u : Link Pipe) (clock : Nat) : Link Pipe :=
  { u with pipe := { u.pipe with hardware := { u.pipe.hardware with clock := clock } } }

theorem fails_fail {e : Error} {message : String} :
    (fail e message : Op (Link Pipe) α).Fails u e u := ⟨rfl, rfl⟩

theorem yields_write {frame : Bytes} {ms : Nat} (hopen : u.pipe.hardware.closed = false) :
    (onPipe (BulkPipe.write frame ms)).Yields u frame.length
      { u with pipe := { u.pipe with hardware := { u.pipe.hardware with
          written := u.pipe.hardware.written ++ [frame] } } } := by
  refine Act.yields_zoom.mpr ⟨_, Act.yields_bind.mpr ⟨_, _, Act.yields_get.mpr ⟨rfl, rfl⟩, ?_⟩, rfl⟩
  refine Act.yields_ite.mpr (.inr ⟨by simp [hopen], ?_⟩)
  exact Act.yields_bind.mpr ⟨⟨⟩, _, Act.yields_set.mpr rfl, Act.yields_pure.mpr ⟨rfl, rfl⟩⟩

/-- Waits for the acknowledgement of a command. -/
def acknowledged {σ : Type} [BulkPipe σ] (t : Timeout) : Op (Link σ) Unit := do
  match ← (readTransfer t).attempt with
  | .error e => fail e ("Unable to read ACK (" ++ e.text ++ ")")
  | .ok reply =>
    if !Frame.isAck reply then fail .io ("Unexpected PN53x reply! " ++ Hex.spaced reply)

/-- Cancelling never fails. -/
theorem yields_cancel {σ : Type} [BulkPipe σ] (l : Link σ) :
    (cancel : Op (Link σ) Unit).Yields l () (cancel l).state := by
  refine ⟨?_, rfl⟩
  unfold cancel
  rw [(Act.attempt_bind _ _ _).1]
  cases (ack l).result <;> rfl

/-- Takes the parameters out of the transfer that answers a command. -/
def unpacked {σ : Type} (capacity : Nat) (command : UInt8) (transfer : Bytes) :
    Op (Link σ) Bytes := do
  let params ← Frame.decodeOp transfer command
  if capacity < params.length then
    fail .io ("Buffer too small (szDataLen: " ++ toString capacity ++ ", len: "
      ++ toString params.length ++ ")")
  return params

/-- A command that fits a frame goes out, and what comes next from the pipe decides how that
ends. -/
theorem send_run (hne : data ≠ []) (hlen : data.length ≤ Frame.maxData)
    (hopen : u.pipe.hardware.closed = false) (t : Timeout) :
    let written := u.sending data u.pipe.hardware.reads
    (send data t u).result = (acknowledged t written).result ∧
      (send data t u).state = (acknowledged t written).state := by
  intro written
  have hencode : (Frame.encodeOp data).Yields u (Frame.wrap (Frame.hostTfi :: data)) u := by
    rw [Frame.encodeOp, Frame.encode_eq_ok hne hlen]
    exact Act.yields_pure.mpr ⟨rfl, rfl⟩
  unfold send
  rw [(hencode.bind _).1, (hencode.bind _).2, (Act.attempt_bind _ _ _).1,
    (Act.attempt_bind _ _ _).2, (yields_write hopen).1, (yields_write hopen).2]
  exact ⟨rfl, rfl⟩

/-- A command is taken when its acknowledgement comes. -/
theorem yields_send (hne : data ≠ []) (hlen : data.length ≤ Frame.maxData)
    (hopen : u.pipe.hardware.closed = false) {rest : List Bytes}
    (hreads : u.pipe.hardware.reads = Frame.ack :: rest) {t : Timeout} (ht : t ≠ .millis 0) :
    (send data t).Yields u () (u.sending data rest) := by
  have hread : (readTransfer t).Yields (u.sending data (Frame.ack :: rest)) Frame.ack
      (u.sending data rest) :=
    yields_readTransfer (u := u.sending data []) (by decide) ht
  have hack : (acknowledged t).Yields (u.sending data (Frame.ack :: rest)) ()
      (u.sending data rest) := by
    refine Act.yields_bind.mpr ⟨_, _, Act.yields_attempt.mpr hread, ?_⟩
    exact Act.yields_ite.mpr (.inr ⟨by decide, Act.yields_pure.mpr ⟨rfl, rfl⟩⟩)
  obtain ⟨hresult, hstate⟩ := send_run hne hlen hopen t
  rw [hreads] at hresult hstate
  exact ⟨hresult.trans hack.1, hstate.trans hack.2⟩

/-! ## Silence -/

theorem fails_read {p : Pipe} (hreads : p.reads = []) (capacity micros : Nat)
    (signal : AbortSignal) :
    (BulkPipe.read capacity micros).Fails (⟨p, signal⟩ : Watched Pipe) .timeout
      ⟨{ p with clock := p.clock + min micros Pipe.wait }, signal⟩ := by
  obtain ⟨written, reads, closed, clock⟩ := p
  cases hreads
  exact ⟨rfl, rfl⟩

/-- Nothing comes from an empty pipe, however long it is waited for. -/
theorem fails_readSlices {p : Pipe} (hreads : p.reads = []) (slices : Nat) (left : Option Nat) :
    ∃ clock, (readSlices slices left).Fails ⟨p, ⟨false⟩⟩ .timeout
      ⟨{ p with clock := clock }, ⟨false⟩⟩ := by
  -- on the slices that are left; each of them only moves the clock
  induction slices generalizing p left with
  | zero => exact ⟨p.clock, rfl, rfl⟩
  | succ slices ih =>
      rw [readSlices]
      by_cases hleft : left = some 0
      · rw [if_pos hleft]
        exact ⟨p.clock, rfl, rfl⟩
      · rw [if_neg hleft]
        let micros := min (left.getD readSlice) readSlice
        let later : Pipe := { p with clock := p.clock + min micros Pipe.wait }
        have hread := fails_read hreads transferSize micros ⟨false⟩
        obtain ⟨clock, hrest⟩ :=
          ih (p := later) hreads (left.map (· - max 1 (later.clock - p.clock)))
        refine ⟨clock, Act.fails_bind.mpr (.inr ⟨_, _, Act.yields_get.mpr ⟨rfl, rfl⟩, ?_⟩)⟩
        refine Act.fails_bind.mpr (.inr ⟨_, _, Act.yields_attempt.mpr hread, ?_⟩)
        refine Act.fails_bind.mpr (.inr ⟨_, _, Act.yields_get.mpr ⟨rfl, rfl⟩, ?_⟩)
        refine Act.fails_bind.mpr (.inr ⟨⟨⟩, _, Act.yields_set.mpr rfl, ?_⟩)
        exact Act.fails_ite.mpr (.inr ⟨Bool.false_ne_true, hrest⟩)

theorem fails_readTransfer (hreads : u.pipe.hardware.reads = [])
    (hquiet : u.pipe.signal.raised = false) (t : Timeout) :
    ∃ clock, (readTransfer t).Fails u .timeout (u.atClock clock) := by
  obtain ⟨⟨p, ⟨raised⟩⟩, model⟩ := u
  obtain rfl : raised = false := hquiet
  unfold readTransfer
  cases t.duration? with
  | none =>
      obtain ⟨clock, h⟩ := fails_readSlices hreads endlessSlices none
      exact ⟨clock, Act.fails_zoom.mpr ⟨_, h, rfl⟩⟩
  | some ms =>
      obtain ⟨clock, h⟩ := fails_readSlices hreads (ms * 1000 + 1) (some (ms * 1000))
      exact ⟨clock, Act.fails_zoom.mpr ⟨_, h, rfl⟩⟩

/-- A pipe from which nothing comes lets a command run out of time. -/
theorem fails_send_silent (hne : data ≠ []) (hlen : data.length ≤ Frame.maxData)
    (hopen : u.pipe.hardware.closed = false) (hreads : u.pipe.hardware.reads = [])
    (hquiet : u.pipe.signal.raised = false) (t : Timeout) :
    ∃ clock, (send data t).Fails u .timeout ((u.sending data []).atClock clock) := by
  obtain ⟨clock, hread⟩ := fails_readTransfer (u := u.sending data []) rfl hquiet t
  have hack : (acknowledged t).Fails (u.sending data []) .timeout
      ((u.sending data []).atClock clock) :=
    Act.fails_bind.mpr (.inr ⟨_, _, Act.yields_attempt.mpr hread, fails_fail⟩)
  obtain ⟨hresult, hstate⟩ := send_run hne hlen hopen t
  rw [hreads] at hresult hstate
  exact ⟨clock, hresult.trans hack.1, hstate.trans hack.2⟩

/-- A command that no frame carries is refused before anything is written. -/
theorem fails_send_refused {σ : Type} [BulkPipe σ] {link : Link σ} {e : Error}
    (h : Frame.encode data = .error e) (t : Timeout) : (send data t).Fails link e link := by
  have hencode : (Frame.encodeOp data).Fails link e link := by
    rw [Frame.encodeOp, h]
    exact ⟨rfl, rfl⟩
  exact hencode.bind _

/-! ## Exchanges -/

/-- An exchange delivers the parameters of the reply, and takes it from the pipe. -/
theorem yields_carry {reply : Bytes} {rest : List Bytes}
    (hlen : (code :: params).length ≤ Frame.maxData) (hreply : reply.length ≤ 253)
    (hopen : u.pipe.hardware.closed = false)
    (hreads : u.pipe.hardware.reads = Frame.ack :: Frame.encodeReply code reply :: rest)
    {t : Timeout} (ht : t ≠ .millis 0) :
    (Pn53x.carry code params t).Yields u reply (u.sending (code :: params) rest) := by
  have hsize : (Frame.encodeReply code reply).length ≤ transferSize := by
    rw [Frame.length_encodeReply, transferSize, Frame.overhead]
    omega
  have hdecode : Frame.decode (Frame.encodeReply code reply) code = .ok reply := by
    simpa using Frame.decode_encodeReply hreply []
  have hreceive : (receive Pn53x.replyCapacity code t).Yields
      (u.sending (code :: params) (Frame.encodeReply code reply :: rest)) reply
      (u.sending (code :: params) rest) :=
    (yields_receive (u := u.sending (code :: params) []) hsize ht).mpr ⟨hdecode, hreply, rfl⟩
  refine Act.yields_bind.mpr ⟨(), _, ?_, hreceive⟩
  exact yields_send (List.cons_ne_nil _ _) hlen hopen hreads ht

/-- A reply to another command fails the exchange. -/
theorem fails_carry_foreign {other : UInt8} {reply : Bytes} {rest : List Bytes}
    (hother : other ≠ code) (hlen : (code :: params).length ≤ Frame.maxData)
    (hreply : reply.length ≤ 253) (hopen : u.pipe.hardware.closed = false)
    (hreads : u.pipe.hardware.reads = Frame.ack :: Frame.encodeReply other reply :: rest)
    {t : Timeout} (ht : t ≠ .millis 0) :
    (Pn53x.carry code params t).Fails u .io (u.sending (code :: params) rest) := by
  have hsize : (Frame.encodeReply other reply).length ≤ transferSize := by
    rw [Frame.length_encodeReply, transferSize, Frame.overhead]
    omega
  have hread : (readTransfer t).Yields
      (u.sending (code :: params) (Frame.encodeReply other reply :: rest))
      (Frame.encodeReply other reply) (u.sending (code :: params) rest) :=
    yields_readTransfer (u := u.sending (code :: params) []) hsize ht
  -- the transfer is read in full, and fails to be decoded as a reply to this command
  have hdecode : (Frame.decodeOp (Frame.encodeReply other reply) code).Fails
      (u.sending (code :: params) rest) .io (u.sending (code :: params) rest) := by
    unfold Frame.decodeOp Act.Fails
    rw [Frame.decode_foreign hother hreply]
    exact ⟨rfl, rfl⟩
  have hreceive : (receive Pn53x.replyCapacity code t).Fails
      (u.sending (code :: params) (Frame.encodeReply other reply :: rest)) .io
      (u.sending (code :: params) rest) :=
    Act.fails_bind.mpr (.inr ⟨_, _, Act.yields_attempt.mpr hread,
      Act.fails_bind.mpr (.inl hdecode)⟩)
  refine Act.fails_bind.mpr (.inr ⟨(), _, ?_, hreceive⟩)
  exact yields_send (List.cons_ne_nil _ _) hlen hopen hreads ht

/-- On a pipe from which nothing comes the exchange runs out of time. -/
theorem fails_carry_silent (hlen : (code :: params).length ≤ Frame.maxData)
    (hopen : u.pipe.hardware.closed = false) (hreads : u.pipe.hardware.reads = [])
    (hquiet : u.pipe.signal.raised = false) (t : Timeout) :
    ∃ clock, (Pn53x.carry code params t).Fails u .timeout
      ((u.sending (code :: params) []).atClock clock) := by
  obtain ⟨clock, hsend⟩ :=
    fails_send_silent (List.cons_ne_nil code params) hlen hopen hreads hquiet t
  exact ⟨clock, Act.fails_bind.mpr (.inl hsend)⟩

theorem fails_carry_long (hlen : Frame.maxData < (code :: params).length) (t : Timeout) :
    (Pn53x.carry code params t).Fails u .deviceNotSupported u :=
  Act.fails_bind.mpr (.inl (fails_send_refused (Frame.encode_eq_error (by simp) hlen) t))

end Usb.Link

end NearField
