import NearField.Proofs.Usb.Exchange

/-!
# What an exchange writes to a dongle

A command is written as one transfer, and an acknowledgement is written behind it when the host
gives up waiting for the reply, so that the chip drops the command.  `Logged σ` is a pipe that
writes down the transfers that cross it, and `Course` lists what an exchange can put there.

An exchange that runs out of time or is aborted has written that acknowledgement at last exactly if
the chip has acknowledged its command and nothing more came (`transceive_cancelled_iff`).  A chip
that reports a timeout of its own has dropped its command, and need not be told.  But a chip that
has not acknowledged its command yet is not told either, though it may go on with it
(`transceive_not_cancelled`).
-/

namespace NearField

namespace Usb

/-- A pipe with the transfers that were written to it, or tried, and those that came from it. -/
structure Logged (σ : Type) where
  pipe : σ
  written : List Bytes := []
  received : List Bytes := []

namespace Logged

variable {σ α : Type}

/-- Runs an action of the pipe itself. -/
def passing (a : Op σ α) : Op (Logged σ) α := a.zoom Logged.pipe fun p l => { l with pipe := p }

/-- Runs an action of the pipe itself with the signal. -/
def watching (a : Op (Watched σ) α) : Op (Watched (Logged σ)) α :=
  a.zoom (Watched.map Logged.pipe) fun v w => ⟨{ w.hardware with pipe := v.hardware }, v.signal⟩

/-- Notes a transfer that came. -/
def note (transfer : Bytes) (w : Watched (Logged σ)) : Watched (Logged σ) :=
  { w with hardware := { w.hardware with received := w.hardware.received ++ [transfer] } }

instance [BulkPipe σ] : BulkPipe (Logged σ) where
  write bytes ms := do
    modify fun l => { l with written := l.written ++ [bytes] }
    passing (BulkPipe.write bytes ms)
  read n micros := do
    let transfer ← watching (BulkPipe.read n micros)
    modify (note transfer)
    return transfer
  close l := { l with pipe := BulkPipe.close l.pipe }
  clock l := BulkPipe.clock l.pipe

end Logged

namespace Link

variable {σ : Type} {l l' l'' : Link (Logged σ)} {w w' r r' : List Bytes}

/-- Between two states these transfers were written and those came. -/
def Adds (l l' : Link (Logged σ)) (w r : List Bytes) : Prop :=
  l'.pipe.hardware.written = l.pipe.hardware.written ++ w ∧
    l'.pipe.hardware.received = l.pipe.hardware.received ++ r

theorem Adds.refl (l : Link (Logged σ)) : Adds l l [] [] := by simp [Adds]

/-- What two runs write and read, they do one behind the other. -/
theorem Adds.trans (h : Adds l l' w r) (h' : Adds l' l'' w' r') :
    Adds l l'' (w ++ w') (r ++ r') := by
  obtain ⟨hwritten, hreceived⟩ := h
  obtain ⟨hwritten', hreceived'⟩ := h'
  rw [Adds, hwritten', hwritten, hreceived', hreceived, List.append_assoc, List.append_assoc]
  exact ⟨rfl, rfl⟩

variable [BulkPipe σ]

/-- A frame that is written is logged, also if it is not taken. -/
theorem adds_write (frame : Bytes) (ms : Nat) (l : Link (Logged σ)) :
    Adds l (onPipe (BulkPipe.write frame ms) l).state [frame] [] :=
  ⟨rfl, (List.append_nil _).symm⟩

/-! ## Waiting -/

/-- Between two states nothing was written, and a transfer came if there is one. -/
def Takes (v v' : Watched (Logged σ)) (transfer? : Option Bytes) : Prop :=
  v'.hardware.written = v.hardware.written ∧
    v'.hardware.received = v.hardware.received ++ transfer?.toList

omit [BulkPipe σ] in
theorem Takes.none (v : Watched (Logged σ)) : Takes v v none := ⟨rfl, (List.append_nil _).symm⟩

omit [BulkPipe σ] in
theorem Takes.trans {v v' v'' : Watched (Logged σ)} {transfer? : Option Bytes}
    (h : Takes v v' Option.none) (h' : Takes v' v'' transfer?) : Takes v v'' transfer? := by
  obtain ⟨hwritten, hreceived⟩ := h
  rw [Option.toList_none, List.append_nil] at hreceived
  exact ⟨h'.1.trans hwritten, h'.2.trans (by rw [hreceived])⟩

/-- A transfer that is read is logged. -/
theorem takes_read (n micros : Nat) (v : Watched (Logged σ)) :
    Takes v (BulkPipe.read n micros v).state (BulkPipe.read n micros v).result.toOption := by
  let inner : Op (Watched (Logged σ)) Bytes := Logged.watching (BulkPipe.read n micros)
  let noted (transfer : Bytes) : Op (Watched (Logged σ)) Bytes := do
    modify (Logged.note transfer)
    return transfer
  change Takes v ((inner >>= noted) v).state ((inner >>= noted) v).result.toOption
  rcases inner.yields_or_fails v with ⟨transfer, h⟩ | ⟨e, h⟩
  · rw [(h.bind noted).1, (h.bind noted).2]
    exact ⟨rfl, rfl⟩
  · rw [(h.bind noted).1, (h.bind noted).2]
    exact ⟨rfl, (List.append_nil _).symm⟩

omit [BulkPipe σ] in
/-- A poll takes what follows it takes, and nothing itself. -/
theorem takes_poll {rest : Watched (Logged σ) → Op (Watched (Logged σ)) Bytes}
    (hrest : ∀ v, Takes v (rest v v).state (rest v v).result.toOption) (v : Watched (Logged σ)) :
    Takes v (poll rest v).state (poll rest v).result.toOption := by
  rw [poll_apply]
  by_cases hv : v.signal.raised = true
  · rw [if_pos hv]
    exact ⟨rfl, (List.append_nil _).symm⟩
  · rw [if_neg hv]
    exact hrest v

/-- Waiting writes nothing, and takes one transfer if it succeeds. -/
theorem takes_readSlices (slices : Nat) (left : Option Nat) (v : Watched (Logged σ)) :
    Takes v (readSlices slices left v).state (readSlices slices left v).result.toOption := by
  induction slices generalizing left v with
  | zero => exact .none v
  | succ slices ih =>
      unfold readSlices
      by_cases hleft : left = some 0
      · rw [if_pos hleft]
        exact .none v
      · rw [if_neg hleft, (Act.get_bind _ _).1, (Act.get_bind _ _).2, (Act.attempt_bind _ _ _).1,
          (Act.attempt_bind _ _ _).2]
        let micros := min (left.getD readSlice) readSlice
        have hread := takes_read transferSize micros v
        rcases hresult : (BulkPipe.read transferSize micros v).result with e | transfer
        · rw [hresult] at hread
          cases e with
          | timeout => exact hread.trans (takes_poll (fun v => ih _ v) _)
          | _ => exact hread
        · rw [hresult] at hread
          exact hread

/-- Waiting reads one transfer at most, and writes nothing. -/
theorem adds_readTransfer (t : Timeout) (l : Link (Logged σ)) :
    Adds l (readTransfer t l).state [] (readTransfer t l).result.toOption.toList := by
  have hslices (slices : Nat) (left : Option Nat) :
      Adds l (watching (readSlices slices left) l).state []
        (watching (readSlices slices left) l).result.toOption.toList := by
    obtain ⟨hwritten, hreceived⟩ := takes_readSlices slices left l.pipe
    exact ⟨hwritten.trans (List.append_nil _).symm, hreceived⟩
  unfold readTransfer
  cases t.duration? with
  | none => exact hslices _ _
  | some ms => exact hslices _ _

/-! ## Exchanges -/

/-- Cancelling writes an acknowledgement, whatever becomes of it. -/
theorem adds_cancel (l : Link (Logged σ)) : Adds l (cancel l).state [Frame.ack] [] := by
  have hkeeps (_ : Nat) : Act.Keeps id (pure () : Op (Link (Logged σ)) Unit) := Act.keeps_pure _
  have hack : (ack l).state = (onPipe (BulkPipe.write Frame.ack Timeout.defaultMillis) l).state :=
    Act.keeps_after hkeeps l
  have hcancel : (cancel l).state = (ack l).state := by
    unfold cancel
    rw [(Act.attempt_bind _ _ _).2]
    cases (ack l).result <;> rfl
  rw [hcancel, hack]
  exact adds_write _ _ l

/-- What an exchange may write and receive, by how it ends over the link: the transfers that
were written, those that came, and what comes of them. -/
inductive Course (frame : Bytes) : List Bytes → List Bytes → Except Error Bytes → Prop where
  /-- The command does not fit a frame. -/
  | refused {e : Error} (he : e = .invalidArgument ∨ e = .deviceNotSupported) :
      Course frame [] [] (.error e)
  /-- The command is not written, or nothing comes for it. -/
  | unanswered {e : Error} : Course frame [frame] [] (.error e)
  /-- What comes first is no acknowledgement. -/
  | disputed {reply : Bytes} (h : Frame.isAck reply = false) :
      Course frame [frame] [reply] (.error .io)
  /-- The command is acknowledged, and the wait for its reply is given up. -/
  | cancelled {ack : Bytes} {e : Error} (h : Frame.isAck ack = true)
      (he : e = .operationAborted ∨ e = .timeout) : Course frame [frame, Frame.ack] [ack] (.error e)
  /-- The command is acknowledged, and its reply is lost. -/
  | lost {ack : Bytes} {e : Error} (h : Frame.isAck ack = true)
      (he : ¬ (e = .operationAborted ∨ e = .timeout)) : Course frame [frame] [ack] (.error e)
  /-- The command is acknowledged and answered. -/
  | answered {ack transfer : Bytes} (h : Frame.isAck ack = true) (r : Except Error Bytes) :
      Course frame [frame] [ack, transfer] r

/-- The frame of a command. -/
def frameOf (data : Bytes) : Bytes := Frame.wrap (Frame.hostTfi :: data)

/-- Sending ends with an acknowledgement as the one transfer that came, or in one of the courses
that fail. -/
def Sent (frame : Bytes) (w r : List Bytes) (result : Except Error Unit) : Prop :=
  (result = .ok () ∧ w = [frame] ∧ ∃ ack, Frame.isAck ack = true ∧ r = [ack]) ∨
    ∃ e, result = .error e ∧ Course frame w r (.error e)

/-- What comes first after a command decides how sending it ends. -/
theorem acknowledged_run (frame : Bytes) (t : Timeout) (l : Link (Logged σ)) :
    ∃ r, Adds l (acknowledged t l).state [] r ∧
      Sent frame [frame] r (acknowledged t l).result := by
  have hread := adds_readTransfer t l
  unfold acknowledged
  rw [(Act.attempt_bind _ _ _).1, (Act.attempt_bind _ _ _).2]
  rcases hresult : (readTransfer t l).result with e | reply
  · rw [hresult] at hread
    exact ⟨[], hread, .inr ⟨e, rfl, .unanswered⟩⟩
  · rw [hresult] at hread
    refine ⟨[reply], ?_⟩
    simp only
    cases hack : Frame.isAck reply with
    | true => exact ⟨hread, .inl ⟨rfl, rfl, reply, hack, rfl⟩⟩
    | false => exact ⟨hread, .inr ⟨.io, rfl, .disputed hack⟩⟩

/-- A command is refused for want of bytes, or for too many. -/
theorem encode_error {data : Bytes} {e : Error} (h : Frame.encode data = .error e) :
    e = .invalidArgument ∨ e = .deviceNotSupported := by
  unfold Frame.encode at h
  split at h
  · exact .inl (Except.error.inj h).symm
  · split at h
    · exact .inr (Except.error.inj h).symm
    · cases h

theorem send_course (data : Bytes) (t : Timeout) (l : Link (Logged σ)) :
    ∃ w r, Adds l (send data t l).state w r ∧ Sent (frameOf data) w r (send data t l).result := by
  cases hencode : Frame.encode data with
  | error e =>
      have hfails : (Frame.encodeOp data).Fails l e l := by
        rw [Frame.encodeOp, hencode]
        exact ⟨rfl, rfl⟩
      unfold send
      obtain ⟨hresult, hstate⟩ := hfails.bind _
      exact ⟨[], [], hstate.symm ▸ .refl l, .inr ⟨e, hresult, .refused (encode_error hencode)⟩⟩
  | ok frame =>
      have hyields : (Frame.encodeOp data).Yields l frame l := by
        rw [Frame.encodeOp, hencode]
        exact ⟨rfl, rfl⟩
      obtain rfl : frame = frameOf data := Frame.eq_wrap_of_encode hencode
      have hwrite := adds_write (frameOf data) (t.duration?.getD 0) l
      unfold send
      rw [(hyields.bind _).1, (hyields.bind _).2, (Act.attempt_bind _ _ _).1,
        (Act.attempt_bind _ _ _).2]
      rcases (onPipe (BulkPipe.write (frameOf data) (t.duration?.getD 0)) l).result with e | n
      · exact ⟨_, _, hwrite, .inr ⟨e, rfl, .unanswered⟩⟩
      · obtain ⟨r, hadds, hsent⟩ := acknowledged_run (frameOf data) t
          (onPipe (BulkPipe.write (frameOf data) (t.duration?.getD 0)) l).state
        exact ⟨_, _, hwrite.trans hadds, hsent⟩

/-- The wait for a reply brings a transfer or is given up. -/
theorem receive_run (capacity : Nat) (command : UInt8) (t : Timeout) (l : Link (Logged σ)) :
    (∃ transfer, Adds l (receive capacity command t l).state [] [transfer]) ∨
      ∃ e, (receive capacity command t l).result = .error e ∧
        Adds l (receive capacity command t l).state
          (if e = .operationAborted ∨ e = .timeout then [Frame.ack] else []) [] := by
  have hread := adds_readTransfer t l
  unfold receive
  rw [(Act.attempt_bind _ _ _).1, (Act.attempt_bind _ _ _).2]
  rcases hresult : (readTransfer t l).result with e | transfer
  · rw [hresult] at hread
    refine .inr ⟨e, ?_⟩
    simp only
    -- the chip is told to drop the command only where the wait itself ended
    by_cases he : e = .operationAborted ∨ e = .timeout
    · rw [if_pos he, if_pos he]
      obtain ⟨hthrow, hstate⟩ :=
        (yields_cancel (readTransfer t l).state).bind fun _ => (throw e : Op _ Bytes)
      refine ⟨hthrow, ?_⟩
      rw [hstate]
      exact hread.trans (adds_cancel _)
    · rw [if_neg he, if_neg he]
      exact ⟨rfl, hread⟩
  · rw [hresult] at hread
    have hunpacked : Act.Keeps id (unpacked capacity command transfer : Op (Link (Logged σ)) _) :=
      .bind (Frame.keeps_decodeOp _ _) fun _ => .ite (fun _ => rfl) (Act.keeps_pure _)
    refine .inl ⟨transfer, ?_⟩
    change Adds l (unpacked capacity command transfer (readTransfer t l).state).state [] [transfer]
    rw [show (unpacked capacity command transfer (readTransfer t l).state).state = _ from
      hunpacked _]
    exact hread

/-- **Every exchange takes one of these courses**, whatever the pipe does. -/
theorem carry_course (code : UInt8) (params : Bytes) (t : Timeout) (l : Link (Logged σ)) :
    ∃ w r, Adds l (Pn53x.carry code params t l).state w r ∧
      Course (frameOf (code :: params)) w r (Pn53x.carry code params t l).result := by
  let sent : Op (Link (Logged σ)) Unit := send (code :: params) t
  let received (_ : Unit) : Op (Link (Logged σ)) Bytes := receive Pn53x.replyCapacity code t
  change ∃ w r, Adds l ((sent >>= received) l).state w r ∧
    Course _ w r ((sent >>= received) l).result
  obtain ⟨w, r, hadds, ⟨hok, rfl, ack, hack, rfl⟩ | ⟨e, herror, hcourse⟩⟩ :=
    send_course (code :: params) t l
  · have hsent : sent.Yields l () (sent l).state := ⟨hok, rfl⟩
    rw [(hsent.bind received).1, (hsent.bind received).2]
    rcases receive_run Pn53x.replyCapacity code t (sent l).state with
      ⟨transfer, hreceived⟩ | ⟨e, herror, hreceived⟩
    · exact ⟨_, _, hadds.trans hreceived, .answered hack _⟩
    · refine ⟨_, _, hadds.trans hreceived, ?_⟩
      rw [show (received () _).result = .error e from herror]
      by_cases he : e = .operationAborted ∨ e = .timeout
      · rw [if_pos he]
        exact .cancelled hack he
      · rw [if_neg he]
        exact .lost hack he
  · have hsent : sent.Fails l e (sent l).state := ⟨herror, rfl⟩
    obtain ⟨hresult, hstate⟩ := hsent.bind received
    exact ⟨w, r, hstate.symm ▸ hadds, hresult.symm ▸ hcourse⟩

end Link

end Usb

namespace Pn53x.Chip
open Usb Simulated

/-- The transfers that were written to the pipe below a chip, or tried. -/
def written {σ : Type} (c : Chip (Link (Logged σ))) : List Bytes := c.link.pipe.hardware.written

/-- The transfers that came from the pipe below a chip. -/
def received {σ : Type} (c : Chip (Link (Logged σ))) : List Bytes := c.link.pipe.hardware.received

/-- The frame of a command is longer than an acknowledgement. -/
theorem frameOf_ne_ack (cmd : Bytes) : Link.frameOf cmd ≠ Frame.ack := by
  intro h
  have hlength := congrArg List.length h
  simp [Link.frameOf, Frame.wrap, Frame.ack, Frame.preamble] at hlength

/-- **A command that is given up is cancelled exactly if it was acknowledged and nothing came behind
that**, whatever the pipe does.  Of an exchange that runs out of time or is aborted, the frame of
the command was written, and the acknowledgement that cancels it behind that if one transfer came,
which was the acknowledgement of the chip.  If none came, or the reply as well, nothing was written
behind the frame. -/
theorem transceive_cancelled_iff {σ : Type} [BulkPipe σ] {c : Chip (Link (Logged σ))} {cmd : Bytes}
    {t : Timeout} {e : Error}
    (h : (transceive cmd t c).result = .error e) (he : e = .operationAborted ∨ e = .timeout) :
    ((transceive cmd t c).state.written.getLast? = some Frame.ack ↔
      ∃ came, (transceive cmd t c).state.received = c.received ++ [came]) ∧
    ∃ w r, (transceive cmd t c).state.written = c.written ++ w ∧
      (transceive cmd t c).state.received = c.received ++ r ∧
      (r = [] ∧ w = [Link.frameOf cmd] ∨
        (∃ came, Frame.isAck came = true ∧ r = [came]) ∧ w = [Link.frameOf cmd, Frame.ack] ∨
        (∃ came reply, Frame.isAck came = true ∧ r = [came, reply]) ∧ w = [Link.frameOf cmd]) := by
  cases cmd with
  | nil =>
      obtain rfl : Error.invalidArgument = e := Except.error.inj h
      exact absurd he (by decide)
  | cons code params =>
      obtain ⟨w, r, ⟨hwritten, hreceived⟩, hcourse⟩ := Link.carry_course code params t c.link
      have hlink : (transceive (code :: params) t c).state.link =
          (carry code params t c.link).state := link_transceive code params t c
      rw [← hlink] at hwritten hreceived
      -- of the courses that fail with `e` three are left
      have hcases : r = [] ∧ w = [Link.frameOf (code :: params)] ∨
          (∃ came, Frame.isAck came = true ∧ r = [came]) ∧
            w = [Link.frameOf (code :: params), Frame.ack] ∨
          (∃ came reply, Frame.isAck came = true ∧ r = [came, reply]) ∧
            w = [Link.frameOf (code :: params)] := by
        rcases (carry code params t).yields_or_fails c.link with ⟨reply, hcarry⟩ | ⟨e', hcarry⟩
        · rw [hcarry.1] at hcourse
          cases hcourse with
          | answered hack _ => exact .inr (.inr ⟨⟨_, _, hack, rfl⟩, rfl⟩)
        · obtain hsame | hsame : e' = e ∨ ¬ e' = e := Decidable.em _
          · subst hsame
            rw [hcarry.1] at hcourse
            cases hcourse with
            | refused hrefused => rcases he with rfl | rfl <;> exact absurd hrefused (by decide)
            | unanswered => exact .inl ⟨rfl, rfl⟩
            | disputed => exact absurd he (by decide)
            | cancelled hack => exact .inr (.inl ⟨⟨_, hack, rfl⟩, rfl⟩)
            | lost hack hne => exact absurd he hne
            | answered hack _ => exact .inr (.inr ⟨⟨_, _, hack, rfl⟩, rfl⟩)
          · exact absurd (Except.error.inj ((transceive_of_fails hcarry).1.symm.trans h)) hsame
      refine ⟨?_, w, r, hwritten, hreceived, hcases⟩
      have hne := frameOf_ne_ack (code :: params)
      rw [written, received, hwritten, hreceived]
      rcases hcases with ⟨rfl, rfl⟩ | ⟨⟨came, -, rfl⟩, rfl⟩ | ⟨⟨came, reply, -, rfl⟩, rfl⟩
      · exact iff_of_false (by simpa using hne) (by simp [received])
      · exact iff_of_true (by simp) ⟨came, rfl⟩
      · exact iff_of_false (by simpa using hne) (by simp [received])

/-- A dongle from whose pipe these transfers come, while an abort is requested or not. -/
def dongle (reads : List Bytes) (requested : Bool) : Chip (Link (Logged Pipe)) :=
  let pipe : Logged Pipe := { pipe := { reads := reads } }
  { link := ⟨⟨pipe, ⟨requested⟩⟩, .askLogo⟩ }

/-- The frame that lets a target go is acknowledged, and cancelled when the wait for its reply is
aborted. -/
theorem transceive_cancelled_deselect :
    let o := transceive [inDeselect, 0x00] .default (dongle [Frame.ack] true)
    o.result = .error .operationAborted ∧ o.state.received = [Frame.ack] ∧
      o.state.written.getLast? = some Frame.ack := by
  intro o
  have hresult : o.result = .error .operationAborted := rfl
  have hcame : o.state.received = [Frame.ack] := rfl
  exact ⟨hresult, hcame, (transceive_cancelled_iff hresult (.inl rfl)).1.mpr ⟨Frame.ack, hcame⟩⟩

/-- A chip that has taken its command and is silent is not told to drop it, whether the time runs
out or the wait is aborted. -/
theorem transceive_not_cancelled :
    let frame := Link.frameOf [inDeselect, 0x00]
    let expired := transceive [inDeselect, 0x00] (.millis 10) (dongle [] false)
    let aborted := transceive [inDeselect, 0x00] .default (dongle [] true)
    (expired.result = .error .timeout ∧ expired.state.link.pipe.hardware.pipe.written = [frame] ∧
        expired.state.written.getLast? ≠ some Frame.ack) ∧
      aborted.result = .error .operationAborted ∧
        aborted.state.link.pipe.hardware.pipe.written = [frame] ∧
        aborted.state.written.getLast? ≠ some Frame.ack := by
  intro frame expired aborted
  have hexpired : expired.state.written = [frame] := rfl
  have haborted : aborted.state.written = [frame] := rfl
  have hlast : [frame].getLast? ≠ some Frame.ack := by decide
  exact ⟨⟨rfl, rfl, hexpired ▸ hlast⟩, rfl, rfl, haborted ▸ hlast⟩

end Pn53x.Chip

end NearField
