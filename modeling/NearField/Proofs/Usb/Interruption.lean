import NearField.Proofs.Interruption
import NearField.Proofs.Usb.Exchange

/-!
# Aborts over a bulk pipe

A pipe is waited for in slices and knows nothing of aborts; the signal is looked at between the
slices.  A request is therefore consumed by the slice that ends in silence, and not while a
transfer is queued (`readSlices_queued`, `readSlices_silent`).  This goes for the wait for an
acknowledgement as well as for the wait for a reply (`honest_send`, `relays_receive`).
-/

namespace NearField

/-- A bulk pipe as far as requests to abort are concerned: it does not report aborts, and leaves
the signal to others. -/
class InterruptiblePipe (σ : Type) [BulkPipe σ] extends Interruptible σ where
  /-- A transfer is queued. -/
  Queued : σ → Prop
  /-- No transfer is queued, and none comes while one is waited for. -/
  Silent : σ → Prop
  write (bytes : Bytes) (ms : Nat) : Interruptible.Quiet (BulkPipe.write bytes ms : Op σ Nat)
  write_queued {p : σ} (h : Queued p) (bytes : Bytes) (ms : Nat) :
    Queued (BulkPipe.write bytes ms p).state
  read (n micros : Nat) : Act.Leads Watched.Spares (· ≠ .operationAborted)
    (BulkPipe.read n micros : Op (Watched σ) Bytes)
  queued {w : Watched σ} (h : Queued w.hardware) (n : Nat) {micros : Nat} (hmicros : micros ≠ 0) :
    (BulkPipe.read n micros w).result ≠ .error .timeout
  silent {w : Watched σ} (h : Silent w.hardware) (n micros : Nat) :
    (BulkPipe.read n micros w).result = .error .timeout

namespace Usb.Link

variable {σ : Type} [BulkPipe σ] [InterruptiblePipe σ] {slices : Nat} {left : Option Nat}
  {w : Watched σ}

/-! ## Slices -/

/-- A poll of the pipe takes a pending request or leaves the signal to what follows. -/
theorem honest_poll {rest : Watched σ → Op (Watched σ) Bytes}
    (hrest : ∀ w, Watched.Honest id (rest w)) : Watched.Honest id (poll rest) := by
  refine ⟨fun w => ?_, fun w => ?_⟩
  all_goals
    rw [poll_apply]
    by_cases hw : w.signal.raised = true
  · rw [if_pos hw]
    intro _
    have hone := Watched.pending_eq_one.mpr hw
    change w.requests + 0 + 1 ≤ w.requests + w.pending
    omega
  · rw [if_neg hw]
    exact (hrest w).aborted w
  · rw [if_pos hw]
    exact fun h => absurd rfl h
  · rw [if_neg hw]
    exact (hrest w).else_spared w

/-- Slices are honest, as the signal is looked at between them alone. -/
theorem honest_readSlices (slices : Nat) (left : Option Nat) :
    Watched.Honest id (readSlices slices left : Op (Watched σ) Bytes) := by
  induction slices generalizing left with
  | zero => exact Watched.honest_of_leads (Act.leads_throw (by decide))
  | succ slices ih =>
      unfold readSlices
      by_cases hleft : left = some 0
      · rw [if_pos hleft]
        exact Watched.honest_of_leads (Act.leads_throw (by decide))
      · rw [if_neg hleft]
        refine .get_bind fun w => ?_
        refine (Watched.honest_of_leads (InterruptiblePipe.read _ _)).attempt_bind
          (E := fun _ => True) ?_ (Act.leads_throw trivial) fun _ => rfl
        rintro (e | transfer) hr
        · cases e with
          | operationAborted => exact absurd rfl hr
          | timeout => exact honest_poll fun w => ih _
          | _ => exact Watched.honest_of_leads (Act.leads_throw (by decide))
        · exact Watched.honest_of_leads (Act.leads_pure transfer)

/-- While a transfer is queued nobody looks at the signal. -/
theorem readSlices_queued (h : InterruptiblePipe.Queued w.hardware) :
    (readSlices slices left w).result ≠ .error .operationAborted := by
  have herror {e : Error} (he : e ≠ .operationAborted) :
      (.error e : Except Error Bytes) ≠ .error .operationAborted := mt Except.error.inj he
  cases slices with
  | zero => exact herror (by decide)
  | succ slices =>
      unfold readSlices
      by_cases hleft : left = some 0
      · rw [if_pos hleft]
        exact herror (by decide)
      · rw [if_neg hleft, (Act.get_bind _ _).1, (Act.attempt_bind _ _ _).1]
        let micros := min (left.getD readSlice) readSlice
        -- a slice that is begun has time left, so the transfer comes in it
        have hmicros : micros ≠ 0 := by
          cases left with
          | none => decide
          | some n =>
              have hn : n ≠ 0 := fun h => hleft (congrArg some h)
              exact Nat.ne_of_gt (Nat.lt_min.mpr ⟨Nat.pos_of_ne_zero hn, by decide⟩)
        have htimeout := InterruptiblePipe.queued h transferSize hmicros
        have habort := (InterruptiblePipe.read transferSize micros w).2
        rcases hread : (BulkPipe.read transferSize micros w).result with e | transfer
        · cases e with
          | timeout => exact absurd hread htimeout
          | _ => exact herror (habort _ hread)
        · have hok : (.ok transfer : Except Error Bytes) ≠ .error .operationAborted := by simp
          exact hok

/-- In the silence of a first slice a pending request is noticed. -/
theorem readSlices_silent (h : InterruptiblePipe.Silent w.hardware) (hw : w.signal.raised = true)
    (hslices : slices ≠ 0) (hleft : left ≠ some 0) :
    (readSlices slices left w).result = .error .operationAborted := by
  obtain ⟨n, rfl⟩ := Nat.exists_eq_succ_of_ne_zero hslices
  unfold readSlices
  rw [if_neg hleft, (Act.get_bind _ _).1, (Act.attempt_bind _ _ _).1]
  let micros := min (left.getD readSlice) readSlice
  have hsilent := InterruptiblePipe.silent h transferSize micros
  have hraised : (BulkPipe.read transferSize micros w).state.signal.raised = true :=
    (InterruptiblePipe.read transferSize micros w).1.raised hw
  rw [hsilent]
  refine (congrArg Outcome.result (poll_apply _ _)).trans ?_
  rw [if_pos hraised]

/-! ## Transfers -/

variable {l : Link σ} {t : Timeout} {data : Bytes} {capacity : Nat} {command : UInt8}

/-- The requests that were pending on a link still are. -/
abbrev Spares : Link σ → Link σ → Prop := InvImage Watched.Spares Link.pipe

theorem honest_watching {α : Type} {a : Op (Watched σ) α} (ha : Watched.Honest id a) :
    Watched.Honest Link.pipe (watching a) where
  aborted l h := ha.aborted l.pipe h
  else_spared l h := ha.else_spared l.pipe h

/-- Waiting for a transfer is honest, whatever its timeout. -/
theorem honest_readTransfer : Watched.Honest pipe (readTransfer t : Op (Link σ) Bytes) := by
  unfold readTransfer
  refine honest_watching ?_
  cases t.duration? with
  | none => exact honest_readSlices _ _
  | some ms => exact honest_readSlices _ _

/-- A wait is not aborted while a transfer is queued. -/
theorem readTransfer_queued (h : InterruptiblePipe.Queued l.pipe.hardware) :
    (readTransfer t l).result ≠ .error .operationAborted := by
  unfold readTransfer
  cases t.duration? with
  | none => exact readSlices_queued h
  | some ms => exact readSlices_queued h

/-- Over a silent pipe a pending request aborts every wait that has time for it. -/
theorem readTransfer_silent (h : InterruptiblePipe.Silent l.pipe.hardware)
    (hl : l.pipe.signal.raised = true) (ht : t ≠ .millis 0) :
    (readTransfer t l).result = .error .operationAborted := by
  have hms := duration?_ne_zero ht
  unfold readTransfer
  cases hd : t.duration? with
  | none => exact readSlices_silent h hl (by decide) nofun
  | some ms =>
      have hne : ms * 1000 ≠ 0 := Nat.mul_ne_zero (fun h => hms (h ▸ hd)) (by decide)
      exact readSlices_silent h hl (Nat.succ_ne_zero _) fun h => hne (Option.some.inj h)

/-! ## Calls of the link -/

/-- A quiet call of the pipe spares the signal, and is not aborted. -/
theorem leads_onPipe {α : Type} {a : Op σ α} (ha : Interruptible.Quiet a) :
    Act.Leads Spares (· ≠ .operationAborted) (onPipe a) := by
  intro l
  obtain ⟨hrequests, hresult⟩ := ha l.pipe.hardware
  refine ⟨⟨Nat.le_refl _, Nat.add_le_add_right hrequests _⟩, ?_⟩
  rintro e he rfl
  exact hresult he

omit [BulkPipe σ] [InterruptiblePipe σ] in
theorem leads_fail {α : Type} {R : Link σ → Link σ → Prop} [IsPreorder (Link σ) R]
    {E : Error → Prop} {e : Error} {message : String} (he : E e) :
    Act.Leads R E (fail e message : Op (Link σ) α) :=
  (Act.leads_log _ _ _).bind fun _ => Act.leads_throw he

/-- What is made of a transfer behind its wait has nothing to do with the signal. -/
theorem leads_unpacked {transfer : Bytes} : Act.Leads Spares (· ≠ .operationAborted)
    (unpacked capacity command transfer : Op (Link σ) Bytes) := by
  refine (Frame.leads_decodeOp id _ _).bind fun params => ?_
  exact .optionally (leads_fail (by decide)) (Act.leads_pure _)

/-- The wait for an acknowledgement may be aborted. -/
theorem relays_acknowledged :
    Watched.Relays pipe (readTransfer t) (acknowledged t : Op (Link σ) Unit) := by
  refine honest_readTransfer.relays ?_ (leads_fail trivial) fun _ => rfl
  rintro (e | reply) hr
  · exact leads_fail fun he => hr (congrArg _ he)
  · exact .ite (leads_fail (by decide)) (Act.leads_pure _)

/-- Sending waits for one transfer, and is honest as that wait is. -/
theorem honest_send : Watched.Honest pipe (send data t : Op (Link σ) Unit) := by
  refine .after (Frame.leads_encodeOp id data) fun frame => ?_
  have hwrite : Act.Leads Spares (· ≠ .operationAborted)
      (onPipe (BulkPipe.write frame (t.duration?.getD 0)) : Op (Link σ) Nat) :=
    leads_onPipe (InterruptiblePipe.write frame _)
  refine (Watched.honest_of_leads hwrite).attempt_bind (E := fun _ => True) ?_ ?_ fun _ => rfl
  · rintro (e | n) hr
    · exact .after (leads_fail fun he => hr (congrArg _ he)) fun _ => relays_acknowledged.honest
    · exact relays_acknowledged.honest
  · exact (leads_fail trivial).bind fun _ => relays_acknowledged.honest.leads

/-- A command is not aborted while its acknowledgement is queued. -/
theorem send_queued (h : InterruptiblePipe.Queued l.pipe.hardware) :
    (send data t l).result ≠ .error .operationAborted := by
  intro habort
  have hencode := Frame.leads_encodeOp (R := Eq) id data l
  rcases Act.fails_bind.mp ⟨habort, rfl⟩ with hfails | ⟨frame, l₁, hframe, hrest⟩
  · exact hencode.2 _ hfails.1 rfl
  · obtain rfl : l = l₁ := hencode.1.trans hframe.2
    rcases Act.fails_bind.mp hrest with hfails | ⟨r, l₂, hwrite, hrest⟩
    · exact absurd hfails.1 nofun
    · obtain ⟨hresult, rfl⟩ := Act.yields_attempt.mp hwrite
      have hqueued := InterruptiblePipe.write_queued h frame (t.duration?.getD 0)
      cases r with
      | error e =>
          obtain rfl : e = .operationAborted := Except.error.inj hrest.1
          exact (InterruptiblePipe.write frame _ l.pipe.hardware).2 hresult
      | ok n =>
          exact readTransfer_queued hqueued ((relays_acknowledged.aborts_iff _).mp hrest.1)

/-- Telling the chip to drop its command leaves the requests alone. -/
theorem leads_cancel {E : Error → Prop} : Act.Leads Spares E (cancel : Op (Link σ) Unit) := by
  have hack : Act.Leads Spares (· ≠ .operationAborted) (ack : Op (Link σ) Unit) :=
    (leads_onPipe (InterruptiblePipe.write _ _)).bind fun _ => Act.leads_pure _
  refine hack.attempt.bind fun r => ?_
  cases r with
  | ok _ => exact Act.leads_pure _
  | error e => exact Act.leads_log _ _ _

/-- A receiver ends in an abort exactly when its wait for the reply does. -/
theorem relays_receive :
    Watched.Relays pipe (readTransfer t) (receive capacity command t : Op (Link σ) Bytes) := by
  refine honest_readTransfer.relays ?_ ?_ fun l => ?_
  · rintro (e | transfer) hr
    · exact .optionally leads_cancel (Act.leads_throw fun he => hr (congrArg _ he))
    · exact leads_unpacked
  · refine .optionally ?_ (Act.leads_throw trivial)
    exact leads_cancel.mono (fun _ _ h => h.2) fun _ h => h
  · exact ((yields_cancel l).bind fun _ => throw .operationAborted).1

/-- The calls of a dongle's link, over its watched pipe. -/
def transport (m : Model) : Transport σ where
  send data t := (send data t).zoom (⟨·, m⟩) fun l _ => l.pipe
  receive capacity command t := (receive capacity command t).zoom (⟨·, m⟩) fun l _ => l.pipe

/-- A bulk link is an honest transport, for every model of its device. -/
theorem honest_transport (m : Model) : (transport m : Transport σ).Honest where
  send _ _ := ⟨fun w => honest_send.aborted ⟨w, m⟩, fun w => honest_send.else_spared ⟨w, m⟩⟩
  receive _ _ _ := ⟨fun w => relays_receive.honest.aborted ⟨w, m⟩,
    fun w => relays_receive.honest.else_spared ⟨w, m⟩⟩

/-- A request is not spent while the transfer that comes next is queued. -/
theorem sparesRequests (m : Model) :
    (transport m : Transport σ).SparesRequests InterruptiblePipe.Queued :=
  (honest_transport m).sparesRequests (fun h _ _ => send_queued h)
    fun h _ _ _ haborted => readTransfer_queued h ((relays_receive.aborts_iff ⟨_, m⟩).mp haborted)

/-- It is spent on a receiver to which no transfer comes. -/
theorem spendsRequests (m : Model) :
    (transport m : Transport σ).SpendsRequests InterruptiblePipe.Silent fun _ => True :=
  (honest_transport m).spendsRequests fun hw h _ _ _ htimeout _ =>
    (relays_receive.aborts_iff ⟨_, m⟩).mpr (readTransfer_silent h hw htimeout)

end Usb.Link

/-! ## Pipes -/

namespace Simulated.Pipe

/-- A pipe is waited for by nobody else, so no requests are made meanwhile. -/
instance : Interruptible Pipe where
  requests _ := 0

theorem read_result (n micros : Nat) (w : Watched Pipe) :
    (BulkPipe.read n micros w).result =
      match w.hardware.reads with
      | [] => .error .timeout
      | transfer :: _ => if n < transfer.length then .error .bufferOverflow else .ok transfer := by
  obtain ⟨⟨written, reads, closed, clock⟩, signal⟩ := w
  cases reads with
  | nil => rfl
  | cons transfer rest =>
      change (Pipe.read n micros ⟨written, transfer :: rest, closed, clock⟩).result = _
      simp only [Pipe.read, Act.bind_apply, Act.get_apply, Act.set_apply]
      split <;> rfl

instance : InterruptiblePipe Pipe where
  Queued p := p.reads ≠ []
  Silent p := p.reads = []
  write bytes ms p := by
    refine ⟨Nat.le_refl _, ?_⟩
    change (Pipe.write bytes ms p).result ≠ _
    simp only [Pipe.write, Act.bind_apply, Act.get_apply]
    cases p.closed <;> exact nofun
  write_queued {p} h bytes ms := by
    have hreads : (Pipe.write bytes ms p).state.reads = p.reads := by
      simp only [Pipe.write, Act.bind_apply, Act.get_apply]
      cases p.closed <;> rfl
    exact hreads ▸ h
  read n micros w := by
    refine ⟨⟨Nat.le_refl _, Nat.le_refl _⟩, fun e he => ?_⟩
    rw [read_result] at he
    split at he
    · cases he
      decide
    · split at he <;> cases he
      decide
  queued {w} h n micros _ := by
    rw [read_result]
    split
    · exact absurd ‹_› h
    · split <;> exact nofun
  silent {w} h n micros := by
    rw [read_result, h]

end Simulated.Pipe

namespace Interrupted

variable {σ : Type} [BulkPipe σ]

instance : BulkPipe (Interrupted σ) where
  write bytes ms := below (BulkPipe.write bytes ms)
  read n micros := reading (BulkPipe.read n micros)
  close i := { i with hardware := BulkPipe.close i.hardware }
  clock i := BulkPipe.clock i.hardware

instance [InterruptiblePipe σ] : InterruptiblePipe (Interrupted σ) where
  Queued i := InterruptiblePipe.Queued i.hardware
  Silent i := InterruptiblePipe.Silent i.hardware
  write bytes ms := quiet_below (InterruptiblePipe.write bytes ms)
  write_queued h bytes ms := InterruptiblePipe.write_queued h bytes ms
  read n micros w := by
    have hread : Act.Leads Watched.Spares (· ≠ .operationAborted)
      (BulkPipe.read n micros : Op (Watched σ) Bytes) := InterruptiblePipe.read n micros
    have hne : (reading (BulkPipe.read n micros) w).result ≠ .error .operationAborted := by
      rw [reading_result]
      exact fun h => (hread _).2 _ h rfl
    refine ⟨(honest_reading (Watched.honest_of_leads hread)).else_spared w hne, ?_⟩
    rintro e he rfl
    exact hne he
  queued {w} h n micros hmicros := by
    change (reading (BulkPipe.read n micros) w).result ≠ _
    rw [reading_result]
    exact InterruptiblePipe.queued (by rwa [Watched.map, hardware_begin]) n hmicros
  silent {w} h n micros := by
    change (reading (BulkPipe.read n micros) w).result = _
    rw [reading_result]
    exact InterruptiblePipe.silent (by rwa [Watched.map, hardware_begin]) n micros

end Interrupted

end NearField
