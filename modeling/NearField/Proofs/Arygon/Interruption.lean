import NearField.Proofs.Arygon.Prompt
import NearField.Proofs.Arygon.Steps

/-!
# Aborts over a serial line

Of the reads of a serial link only the wait for the first bytes of a reply is given the signal, so
a command is never aborted.  A wait that is aborted has consumed its request, before the recovery
runs; requests that are made during the recovery are consumed by the waits inside it or stay
pending, so a receiver that ends in an abort has consumed one at least (`honest_receive`).

A receiver ends in an abort exactly when its wait does (`relays_receive`), and what that does while
a request is pending is up to the port.  A `PromptPort` hands out the bytes that are there, so a
reply whose first bytes are there is received or refused (`sparesRequests`).  A `WatchfulPort` that
waits in vain gives up (`spendsRequests`).
-/

namespace NearField

/-- A serial port as far as requests to abort are concerned: what it reports as an abort it has
taken from the signal that it was given. -/
class InterruptiblePort (σ : Type) [SerialPort σ] extends Interruptible σ where
  flush (wait : Bool) : Interruptible.Quiet (SerialPort.flush wait : Op σ Unit)
  send (bytes : Bytes) (t : Timeout) : Interruptible.Quiet (SerialPort.send bytes t : Op σ Unit)
  receive (n : Nat) (t : Timeout) (watched : Bool) :
    Watched.Honest id (SerialPort.receive n t watched : Op (Watched σ) Bytes)
  unwatched (n : Nat) (t : Timeout) (w : Watched σ) :
    (SerialPort.receive n t false w).result ≠ .error .operationAborted

/-- A serial port that waits with an eye on the signal: a request that is pending ends a wait that
nothing else ends. -/
class WatchfulPort (σ : Type) [SerialPort σ] where
  /-- So many bytes are not there, and do not come while they are waited for. -/
  Silent : Nat → σ → Prop
  silent {n : Nat} {w : Watched σ} (h : Silent n w.hardware) (hw : w.signal.raised = true)
    {t : Timeout} (ht : t ≠ .millis 0) :
    (SerialPort.receive n t true w).result = .error .operationAborted

namespace Arygon.Link

variable {σ : Type} [SerialPort σ] [InterruptiblePort σ]

/-- The requests that were pending on a link still are. -/
abbrev Spares : Link σ → Link σ → Prop := InvImage Watched.Spares Link.line

theorem leads_quiet {α : Type} {a : Op σ α} (ha : Interruptible.Quiet a) :
    Act.Leads Spares (· ≠ .operationAborted) (onPort a) := by
  intro l
  obtain ⟨hrequests, hresult⟩ := ha l.line.hardware
  refine ⟨⟨Nat.le_refl _, Nat.add_le_add_right hrequests _⟩, ?_⟩
  rintro e he rfl
  exact hresult he

theorem honest_watching {α : Type} {a : Op (Watched σ) α} (ha : Watched.Honest id a) :
    Watched.Honest Link.line (watching a) where
  aborted l h := ha.aborted l.line h
  else_spared l h := ha.else_spared l.line h

/-- Reads that are not given the signal leave it alone, and so does everything else but the wait
for the first bytes of a reply. -/
theorem steps_spares : Steps (Spares (σ := σ)) (· ≠ .operationAborted) fun _ => True where
  flush := leads_quiet (InterruptiblePort.flush false)
  send bytes t := leads_quiet (InterruptiblePort.send bytes t)
  read n t _ l := by
    have hne := InterruptiblePort.unwatched n t l.line
    refine ⟨(InterruptiblePort.receive n t false).else_spared l.line hne, ?_⟩
    rintro e he rfl
    exact hne he
  own he := he

/-! ## Calls of the link -/

variable {data : Bytes} {t : Timeout} {capacity : Nat} {command : UInt8}

/-- Sending is never aborted. -/
theorem honest_send : Watched.Honest line (send data t : Op (Link σ) Unit) :=
  Watched.honest_of_leads (leads_send steps_spares trivial data)

/-- No call of the port makes up requests. -/
theorem steps_consumes : Steps (InvImage (Watched.Consumes 0) (Link.line (σ := σ)))
    (fun _ => True) fun _ => True where
  flush := steps_spares.flush.mono (fun _ _ h => h.2) fun _ _ => trivial
  send bytes t := (steps_spares.send bytes t).mono (fun _ _ h => h.2) fun _ _ => trivial
  read n _ ht := (steps_spares.read n ht).mono (fun _ _ h => h.2) fun _ _ => trivial
  own _ := trivial

/-- A receiver reports the aborts of its wait for the first bytes, whatever its recovery does. -/
theorem relays_receiveWith (hcapacity : capacity ≠ 0) {recovery : Op (Link σ) Unit}
    (hrecovery : Act.Leads (InvImage (Watched.Consumes 0) line) (fun _ => True) recovery) :
    Watched.Relays line (watching (SerialPort.receive 5 t true))
      (receiveWith recovery capacity command t) := by
  unfold receiveWith
  rw [if_neg hcapacity]
  refine (honest_watching (InterruptiblePort.receive 5 t true)).relays ?_
    (leads_abandon trivial hrecovery) (abandon_result recovery)
  rintro (e | header) hr
  · cases e with
    | operationAborted => exact absurd rfl hr
    | _ => exact steps_spares.fail (by decide)
  · exact leads_afterHeader steps_spares trivial _ _ _

/-- No recovery makes up requests, however many run inside each other. -/
theorem leads_recovery (n : Nat) : Act.Leads (InvImage (Watched.Consumes 0) line) (fun _ => True)
    (recoverWith (receiveWithin n) : Op (Link σ) Unit) := by
  refine leads_recoverWith steps_consumes trivial fun capacity command => ?_
  refine leads_receiveWithin steps_consumes trivial trivial (fun {t} _ => ?_) trivial n _ _
  exact (honest_watching (InterruptiblePort.receive 5 t true)).leads

/-- A receiver with room for a reply ends in an abort exactly when its wait for the first bytes
does. -/
theorem relays_receive (hcapacity : capacity ≠ 0) :
    Watched.Relays line (watching (SerialPort.receive 5 t true))
      (receive capacity command t : Op (Link σ) Bytes) := by
  unfold receive
  cases maxRecoveries with
  | zero => exact relays_receiveWith hcapacity (Act.leads_pure _)
  | succ n => exact relays_receiveWith hcapacity (leads_recovery n)

omit [InterruptiblePort σ] in
/-- Without room for a reply there is no wait. -/
theorem receive_empty : (receive 0 command t : Op (Link σ) Bytes) =
    fail .invalidArgument "Zero-size buffer" := by
  unfold receive
  cases maxRecoveries <;> rfl

theorem honest_receive : Watched.Honest line (receive capacity command t : Op (Link σ) Bytes) := by
  by_cases hcapacity : capacity = 0
  · rw [hcapacity, receive_empty]
    exact Watched.honest_of_leads (steps_spares.fail (by decide))
  · exact (relays_receive hcapacity).honest

/-- The calls of a serial link, over its watched port. -/
def transport : Transport σ where
  send data t := (send data t).zoom Link.mk fun l _ => l.line
  receive capacity command t := (receive capacity command t).zoom Link.mk fun l _ => l.line

theorem honest_transport : (transport : Transport σ).Honest where
  send _ _ := ⟨fun w => honest_send.aborted ⟨w⟩, fun w => honest_send.else_spared ⟨w⟩⟩
  receive _ _ _ := ⟨fun w => honest_receive.aborted ⟨w⟩, fun w => honest_receive.else_spared ⟨w⟩⟩

/-- Where a port hands out the bytes that are there, a reply whose first bytes are there is received
or refused while a request waits. -/
theorem receive_begun [PromptPort σ] {l : Link σ} (h : 5 ≤ l.available.length) :
    (receive capacity command t l).result ≠ .error .operationAborted := by
  intro haborted
  by_cases hcapacity : capacity = 0
  · rw [hcapacity, receive_empty] at haborted
    cases haborted
  · have hwait := ((relays_receive hcapacity).aborts_iff l).mp haborted
    cases (PromptPort.receive h t true).1.symm.trans hwait

/-- Such a port spends no request on a reply that has begun. -/
theorem sparesRequests [PromptPort σ] : (transport : Transport σ).SparesRequests
    fun p => 5 ≤ (PromptPort.input p).length := by
  refine honest_transport.sparesRequests ?_ fun h _ _ _ => receive_begun (l := ⟨_⟩) h
  intro w _ data timeout haborted
  exact (leads_send steps_spares trivial data ⟨w⟩).2 _ haborted rfl

/-- Where a port waits with an eye on the signal, a request is spent on a receiver to which the
first five bytes of a reply do not come.  A receiver without room for a reply does not wait. -/
theorem spendsRequests [WatchfulPort σ] :
    (transport : Transport σ).SpendsRequests (WatchfulPort.Silent 5) (· ≠ 0) :=
  honest_transport.spendsRequests fun hw h _ _ hcapacity htimeout _ =>
    ((relays_receive hcapacity).aborts_iff ⟨_⟩).mpr (WatchfulPort.silent h hw htimeout)

end Arygon.Link

/-! ## Ports -/

namespace Simulated.Line

theorem receive_apply (n : Nat) (t : Timeout) (watched : Bool) (w : Watched Line) :
    Line.receive n t watched w =
      if n ≤ w.hardware.input.length then
        ⟨.ok (w.hardware.input.take n),
          ⟨{ w.hardware with input := w.hardware.input.drop n }, w.signal⟩, []⟩
      else if watched && w.signal.raised then ⟨.error .operationAborted, ⟨w.hardware, ⟨false⟩⟩, []⟩
      else ⟨.error .timeout, w, []⟩ := by
  simp only [Line.receive, Act.bind_apply, Act.get_apply]
  by_cases hn : n ≤ w.hardware.input.length
  · rw [if_pos hn, if_pos hn]
    rfl
  · rw [if_neg hn, if_neg hn]
    cases watched && w.signal.raised <;> rfl

/-- Only a read that is not met lowers the signal that it is given. -/
theorem receive_aborts_iff {n : Nat} {t : Timeout} {watched : Bool} {w : Watched Line} :
    (Line.receive n t watched w).result = .error .operationAborted ↔
      w.hardware.input.length < n ∧ (watched && w.signal.raised) = true := by
  rw [receive_apply, ← Nat.not_le]
  by_cases hn : n ≤ w.hardware.input.length
  · simp [hn]
  · cases watched && w.signal.raised <;> simp [hn]

/-- A line is waited for by nobody else, so no requests are made meanwhile. -/
instance : Interruptible Line where
  requests _ := 0

theorem honest_receive (n : Nat) (t : Timeout) (watched : Bool) :
    Watched.Honest id (Line.receive n t watched) := by
  refine ⟨fun w h => ?_, fun w h => ?_⟩
  · obtain ⟨hn, hwatched⟩ := receive_aborts_iff.mp h
    have hone := Watched.pending_eq_one.mpr ((Bool.and_eq_true_iff.mp hwatched).2)
    rw [receive_apply, if_neg (Nat.not_le.mpr hn), if_pos hwatched]
    change 0 + 0 + 1 ≤ 0 + w.pending
    omega
  · have hstate : (Line.receive n t watched w).state.signal = w.signal := by
      rw [receive_apply]
      by_cases hn : n ≤ w.hardware.input.length
      · rw [if_pos hn]
      · rw [if_neg hn, if_neg fun hwatched =>
          h (receive_aborts_iff.mpr ⟨Nat.not_le.mp hn, hwatched⟩)]
    have hpending : (Line.receive n t watched w).state.pending = w.pending :=
      congrArg (fun s : AbortSignal => s.raised.toNat) hstate
    refine ⟨Nat.le_of_eq hpending.symm, ?_⟩
    change 0 + (Line.receive n t watched w).state.pending ≤ 0 + w.pending
    omega

instance : InterruptiblePort Line where
  flush _ _ := ⟨Nat.le_refl _, nofun⟩
  send bytes t l := by
    refine ⟨Nat.le_refl _, ?_⟩
    change (Line.send bytes t l).result ≠ _
    simp only [Line.send, Act.bind_apply, Act.get_apply]
    cases l.closed <;> exact nofun
  receive := honest_receive
  unwatched n t w h := nomatch (receive_aborts_iff.mp h).2

instance : WatchfulPort Line where
  Silent n l := l.input.length < n
  silent h hw _ _ := receive_aborts_iff.mpr ⟨h, hw⟩

end Simulated.Line

namespace Interrupted

variable {σ : Type} [SerialPort σ]

instance [InterruptiblePort σ] : InterruptiblePort (Interrupted σ) where
  flush wait := quiet_below (InterruptiblePort.flush wait)
  send bytes t := quiet_below (InterruptiblePort.send bytes t)
  receive n t watched := honest_reading (InterruptiblePort.receive n t watched)
  unwatched n t w := by
    change (reading (SerialPort.receive n t false) w).result ≠ _
    rw [reading_result]
    exact InterruptiblePort.unwatched n t _

/-- Requests that are made before a read do not keep it from noticing that one is pending. -/
instance [WatchfulPort σ] : WatchfulPort (Interrupted σ) where
  Silent n i := WatchfulPort.Silent n i.hardware
  silent {n w} h hw t ht := by
    change (reading (SerialPort.receive n t true) w).result = _
    rw [reading_result]
    refine WatchfulPort.silent (by rwa [Watched.map, hardware_begin]) ?_ ht
    exact raised_begin hw

end Interrupted

end NearField
