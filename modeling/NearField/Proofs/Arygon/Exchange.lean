import NearField.Proofs.Arygon.Stream
import NearField.Proofs.Pn53x.Exchange

/-!
# Exchanges over a serial line

A command goes out on a line without unread input, and what the line then has to read decides how
that ends (`send_of_yields`).  With the reply to the command itself behind an acknowledgement the
exchange delivers its parameters and takes it off the line (`Supplies.carry`, and `yields_carry` for
a line in memory, which releases the reply that is scripted next).  It fails if the reply is to
another command, if there is none, and if the command does not fit a frame.
-/

namespace NearField

namespace Simulated.Line

variable {l : Line} {w : Watched Line} {t : Timeout}

/-- An open line takes whatever is sent, and the reply that comes next can be read. -/
theorem yields_send {data : Bytes} (hopen : l.closed = false) :
    (Line.send data t).Yields l () { l with
      sent := l.sent ++ [data], input := l.input ++ l.replies.headD [],
      replies := l.replies.drop 1 } := by
  refine Act.yields_bind.mpr ⟨_, _, Act.yields_get.mpr ⟨rfl, rfl⟩, Act.yields_ite.mpr (.inr ?_)⟩
  exact ⟨by simp [hopen], Act.yields_set.mpr rfl⟩

/-- A read of more than there is runs out of time and takes nothing, unless it is aborted. -/
theorem fails_receive {n : Nat} (h : w.hardware.input.length < n) :
    (Line.receive n t false).Fails w .timeout w := by
  refine Act.fails_bind.mpr (.inr ⟨_, _, Act.yields_get.mpr ⟨rfl, rfl⟩, ?_⟩)
  exact Act.fails_ite.mpr (.inr ⟨Nat.not_le.mpr h, rfl, rfl⟩)

end Simulated.Line

namespace Arygon.Link
open Simulated

variable {σ α : Type} {data : Bytes} {code : UInt8} {params : Bytes}

/-- The bytes on the line that carry a command to the chip. -/
def wire (data : Bytes) : Bytes := chipSelector :: Frame.wrap (Frame.hostTfi :: data)

/-! ## Answered commands -/

section Answered

variable [SerialPort σ] {t : Timeout} {l flushed answered : Link σ}

/-- Waits for the acknowledgement of a command. -/
def acknowledged (t : Timeout) : Op (Link σ) Unit := do
  checkAck t (← reporting "Unable to read ACK" (read Frame.ack.length t))

/-- A command that fits a frame goes out on a line that takes it, and what the line then has to read
decides how that ends. -/
theorem send_of_yields (hne : data ≠ []) (hlen : data.length ≤ Frame.maxData)
    (hflush : (onPort (SerialPort.flush false)).Yields l () flushed)
    (hsend : (onPort (SerialPort.send (wire data) t)).Yields flushed () answered) :
    (send data t l).result = (acknowledged t answered).result ∧
      (send data t l).state = (acknowledged t answered).state := by
  have hencode : (Frame.encodeOp data).Yields flushed (Frame.wrap (Frame.hostTfi :: data))
      flushed := by
    rw [Frame.encodeOp, Frame.encode_eq_ok hne hlen]
    exact Act.yields_pure.mpr ⟨rfl, rfl⟩
  unfold send
  rw [if_neg (by simpa using hne), if_neg (Nat.not_lt.mpr hlen), (hflush.bind _).1,
    (hflush.bind _).2, (hencode.bind _).1, (hencode.bind _).2]
  exact (yields_reporting.mpr hsend).bind _

variable {P : Bytes → Link σ → Prop} (h : Supplies P)
include h

theorem Supplies.acknowledged {rest : Bytes} (hl : P (Frame.ack ++ rest) l) (t : Timeout) :
    ∃ l', (acknowledged t).Yields l () l' ∧ P rest l' := by
  obtain ⟨l', hread, hrest⟩ := h.read hl t
  refine ⟨l', Act.yields_bind.mpr ⟨_, l', yields_reporting.mpr hread, ?_⟩, hrest⟩
  exact Act.yields_ite.mpr (.inl ⟨rfl, Act.yields_pure.mpr ⟨rfl, rfl⟩⟩)

/-- A command is taken when the line acknowledges it. -/
theorem Supplies.send (hne : data ≠ []) (hlen : data.length ≤ Frame.maxData)
    (hflush : (onPort (SerialPort.flush false)).Yields l () flushed)
    (hsend : (onPort (SerialPort.send (wire data) t)).Yields flushed () answered)
    {rest : Bytes} (hl : P (Frame.ack ++ rest) answered) :
    ∃ l', (Link.send data t).Yields l () l' ∧ P rest l' := by
  obtain ⟨l', hack, hrest⟩ := h.acknowledged hl t
  obtain ⟨hresult, hstate⟩ := send_of_yields hne hlen hflush hsend
  exact ⟨l', ⟨hresult.trans hack.1, hstate.trans hack.2⟩, hrest⟩

/-- **An answered exchange** delivers the parameters of the reply, and nothing is left to be
read. -/
theorem Supplies.carry (hlen : (code :: params).length ≤ Frame.maxData)
    (hflush : (onPort (SerialPort.flush false)).Yields l () flushed)
    (hsend : (onPort (SerialPort.send (wire (code :: params)) t)).Yields flushed () answered)
    {reply : Bytes} (hreply : reply.length ≤ 253)
    (hl : P (Frame.ack ++ Frame.encodeReply code reply) answered) :
    ∃ l', (Pn53x.carry code params t).Yields l reply l' ∧ P [] l' := by
  obtain ⟨l₁, hsent, hl₁⟩ := h.send (List.cons_ne_nil _ _) hlen hflush hsend hl
  rw [← List.append_nil (Frame.encodeReply code reply)] at hl₁
  obtain ⟨l₂, hreceived, hl₂⟩ := h.receive hl₁ hreply (by decide) hreply t
  exact ⟨l₂, Act.yields_bind.mpr ⟨(), l₁, hsent, hreceived⟩, hl₂⟩

end Answered

variable {l l' : Link Line}

/-! ## Failures -/

theorem fails_fail {e : Error} {message : String} :
    (fail e message : Op (Link Line) α).Fails l e l := ⟨rfl, rfl⟩

theorem fails_reporting {message : String} {a : Op (Link Line) α} {e : Error}
    (h : a.Fails l e l') : (reporting message a).Fails l e l' := by
  refine Act.fails_bind.mpr (.inr ⟨.error e, l', Act.yields_attempt.mpr h, fails_fail⟩)

theorem fails_read {n : Nat} {t : Timeout} {s : Bytes} (h : s.length < n) :
    (read n t).Fails (l.holding s) .timeout (l.holding s) :=
  Act.fails_zoom.mpr ⟨_, Line.fails_receive h, rfl⟩

/-! ## Sending -/

/-- The line without unread input. -/
def flushed (l : Link Line) : Link Line :=
  ⟨{ l.line with hardware := { l.line.hardware with
      input := [], flushes := l.line.hardware.flushes + 1 } }⟩

/-- The line after a command has gone out and its reply has come, with this much of the reply
left to be read. -/
def sending (l : Link Line) (data reply : Bytes) : Link Line :=
  ⟨{ l.line with hardware := { l.line.hardware with
      sent := l.line.hardware.sent ++ [wire data], replies := l.line.hardware.replies.drop 1,
      input := reply, flushes := l.line.hardware.flushes + 1 } }⟩

theorem yields_flush : (onPort (SerialPort.flush false)).Yields l () l.flushed :=
  Act.yields_zoom.mpr ⟨_, Act.yields_modify.mpr rfl, rfl⟩

theorem yields_onPort_send (hopen : l.line.hardware.closed = false) (t : Timeout) :
    (onPort (SerialPort.send (wire data) t)).Yields l.flushed ()
      (l.sending data (l.line.hardware.replies.headD [])) :=
  Act.yields_zoom.mpr ⟨_, Line.yields_send hopen, rfl⟩

/-- The reply that is scripted next is what the line has to read behind a command. -/
theorem holding_answer {answer : Bytes} {rest : List Bytes}
    (hreplies : l.line.hardware.replies = answer :: rest) :
    (l.sending data []).holding answer = l.sending data (l.line.hardware.replies.headD []) := by
  rw [hreplies]
  rfl

/-- A command is taken when the line acknowledges it, and what follows the acknowledgement is
all that can be read then. -/
theorem yields_send (hne : data ≠ []) (hlen : data.length ≤ Frame.maxData)
    (hopen : l.line.hardware.closed = false) {reply : Bytes} {rest : List Bytes}
    (hreplies : l.line.hardware.replies = (Frame.ack ++ reply) :: rest) (t : Timeout) :
    (send data t).Yields l () (l.sending data reply) := by
  obtain ⟨_, hsend, rfl⟩ := (supplies_holding (l.sending data [])).send hne hlen yields_flush
    (yields_onPort_send hopen t) (holding_answer hreplies)
  exact hsend

/-- A line that does not answer a command lets it run out of time. -/
theorem fails_send_silent (hne : data ≠ []) (hlen : data.length ≤ Frame.maxData)
    (hopen : l.line.hardware.closed = false) (hreplies : l.line.hardware.replies = [])
    (t : Timeout) : (send data t).Fails l .timeout (l.sending data []) := by
  have hread : (read Frame.ack.length t).Fails (l.sending data []) .timeout (l.sending data []) :=
    fails_read (l := l.sending data []) (by decide)
  have hack : (acknowledged t).Fails (l.sending data []) .timeout (l.sending data []) :=
    Act.fails_bind.mpr (.inl (fails_reporting hread))
  obtain ⟨hresult, hstate⟩ := send_of_yields hne hlen yields_flush (yields_onPort_send hopen t)
  rw [hreplies, List.headD_nil] at hresult hstate
  exact ⟨hresult.trans hack.1, hstate.trans hack.2⟩

/-- A command that no frame carries is refused before anything happens on the line. -/
theorem fails_send_refused {σ : Type} [SerialPort σ] {link : Link σ} {e : Error}
    (h : Frame.encode data = .error e) (t : Timeout) : (send data t).Fails link e link := by
  unfold send
  rcases Frame.encode_eq_error_iff.mp h with ⟨rfl, rfl⟩ | ⟨hlen, rfl⟩
  · exact ⟨rfl, rfl⟩
  · have hne : ¬ data.isEmpty = true := by
      rw [List.isEmpty_iff_length_eq_zero]
      omega
    rw [if_neg hne, if_pos hlen]
    exact ⟨rfl, rfl⟩

/-! ## Receiving -/

theorem fails_readContent_foreign {n : Nat} {other : UInt8} {reply : Bytes} {t : Timeout}
    (hother : other ≠ code) :
    (readContent n code t).Fails (l.holding (content other reply)) .io
      (l.holding ((content other reply).drop 2)) := by
  have hintro : (readPiece "TFI" 2 t).Yields (l.holding (content other reply))
      [Frame.chipTfi, other + 1] (l.holding ((content other reply).drop 2)) :=
    yields_reporting.mpr (yields_read.mpr ⟨rfl, _, rfl, rfl⟩)
  have hcode : other + 1 ≠ code + 1 := fun h => hother (UInt8.add_left_inj 1 |>.mp h)
  refine Act.fails_bind.mpr (.inr ⟨_, _, hintro, ?_⟩)
  refine Act.fails_ite.mpr (.inr ⟨fun h => h rfl, Act.fails_ite.mpr (.inl ⟨hcode, ?_⟩)⟩)
  exact fails_fail.bind _

/-- A reply to another command is not accepted; what is not read of it stays on the line. -/
theorem fails_receive_foreign {capacity : Nat} {other : UInt8} {reply : Bytes} {t : Timeout}
    (hother : other ≠ code) (hmax : reply.length ≤ 253) (hfit : reply.length ≤ capacity)
    (hcap : 1 ≤ capacity) :
    (receive capacity code t).Fails (l.holding (Frame.encodeReply other reply)) .io
      (l.holding ((Frame.encodeReply other reply).drop 7)) := by
  have hhead : (watching (SerialPort.receive 5 t true)).Yields
      (l.holding (Frame.encodeReply other reply)) (header reply.length)
      (l.holding (content other reply)) :=
    yields_watching_receive.mpr ⟨rfl, _, encodeReply_eq_append other reply, rfl⟩
  -- the recoveries that are allowed matter after an abort only
  have hwith (recovery : Op (Link Line) Unit) : (receiveWith recovery capacity code t).Fails
      (l.holding (Frame.encodeReply other reply)) .io
      (l.holding ((Frame.encodeReply other reply).drop 7)) := by
    unfold receiveWith
    rw [if_neg (Nat.one_le_iff_ne_zero.mp hcap)]
    refine Act.fails_bind.mpr (.inr ⟨_, _, Act.yields_attempt.mpr hhead, ?_⟩)
    exact Act.fails_bind.mpr (.inr
      ⟨_, _, yields_checkHeader.mpr ⟨rfl, hmax, hfit, rfl⟩, fails_readContent_foreign hother⟩)
  unfold receive
  cases maxRecoveries with
  | zero => exact hwith _
  | succ n => exact hwith _

/-! ## Exchanges -/

/-- An exchange delivers the parameters of the reply, and nothing is left to be read. -/
theorem yields_carry {reply : Bytes} {rest : List Bytes}
    (hlen : (code :: params).length ≤ Frame.maxData) (hreply : reply.length ≤ 253)
    (hopen : l.line.hardware.closed = false)
    (hreplies : l.line.hardware.replies = (Frame.ack ++ Frame.encodeReply code reply) :: rest)
    (t : Timeout) :
    (Pn53x.carry code params t).Yields l reply (l.sending (code :: params) []) := by
  obtain ⟨_, hcarry, rfl⟩ := (supplies_holding (l.sending (code :: params) [])).carry hlen
    yields_flush (yields_onPort_send hopen t) hreply (holding_answer hreplies)
  exact hcarry

/-- A reply to another command fails the exchange. -/
theorem fails_carry_foreign {other : UInt8} {reply : Bytes} {rest : List Bytes}
    (hother : other ≠ code) (hlen : (code :: params).length ≤ Frame.maxData)
    (hreply : reply.length ≤ 253) (hopen : l.line.hardware.closed = false)
    (hreplies : l.line.hardware.replies = (Frame.ack ++ Frame.encodeReply other reply) :: rest)
    (t : Timeout) :
    (Pn53x.carry code params t).Fails l .io
      (l.sending (code :: params) ((Frame.encodeReply other reply).drop 7)) := by
  have hreceive : (receive Pn53x.replyCapacity code t).Fails
      (l.sending (code :: params) (Frame.encodeReply other reply)) .io
      (l.sending (code :: params) ((Frame.encodeReply other reply).drop 7)) :=
    fails_receive_foreign (l := l.sending (code :: params) []) hother hreply hreply (by decide)
  refine Act.fails_bind.mpr (.inr ⟨(), _, ?_, hreceive⟩)
  exact yields_send (List.cons_ne_nil _ _) hlen hopen hreplies t

/-- On a line that does not answer the exchange runs out of time. -/
theorem fails_carry_silent (hlen : (code :: params).length ≤ Frame.maxData)
    (hopen : l.line.hardware.closed = false) (hreplies : l.line.hardware.replies = [])
    (t : Timeout) :
    (Pn53x.carry code params t).Fails l .timeout (l.sending (code :: params) []) :=
  Act.fails_bind.mpr (.inl (fails_send_silent (List.cons_ne_nil _ _) hlen hopen hreplies t))

theorem fails_carry_long (hlen : Frame.maxData < (code :: params).length) (t : Timeout) :
    (Pn53x.carry code params t).Fails l .deviceNotSupported l :=
  Act.fails_bind.mpr (.inl (fails_send_refused (Frame.encode_eq_error (by simp) hlen) t))

end Arygon.Link

end NearField
