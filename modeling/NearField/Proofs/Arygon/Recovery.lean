import NearField.Proofs.Arygon.Interruption

/-!
# Recoveries inside each other

A receiver whose wait is aborted wakes the chip and asks it for an echo, and the wait for the echo
can be aborted in turn.  `Recoveries t l n` says that a receiver on `l` comes to `n` recoveries,
each inside the one before.  It knows of no bound on them, and where it holds the bound that a
receiver is given is never met, if only it is no less (`Recoveries.receiveWithin_eq`).

Each of them is paid for by a request of its own (`Recoveries.consumes`), over any port that takes
the aborts it reports from the signal (`Accountable`): it may fail in every call, hand out any
bytes and lose requests.  So recoveries come to an end unless requests are made for ever
(`exists_recoveries`), and what comes of them is of no account to the abort that is reported
(`receive_recovers`).
-/

namespace NearField

open Pn53x

/-- A port that takes each abort it reports from the signal that it was given, and makes up no
requests. -/
structure Accountable (σ : Type) [SerialPort σ] [Interruptible σ] : Prop where
  flush (p : σ) : Interruptible.requests p ≤
    Interruptible.requests (SerialPort.flush false p : Outcome Error σ Unit).state
  send (bytes : Bytes) (t : Timeout) (p : σ) : Interruptible.requests p ≤
    Interruptible.requests (SerialPort.send bytes t p : Outcome Error σ Unit).state
  receive (n : Nat) (t : Timeout) (watched : Bool) (w : Watched σ) :
    Watched.Consumes 0 w (SerialPort.receive n t watched w).state
  aborted (n : Nat) (t : Timeout) (w : Watched σ)
    (h : (SerialPort.receive n t true w).result = .error .operationAborted) :
    Watched.Consumes 1 w (SerialPort.receive n t true w).state

theorem InterruptiblePort.accountable (σ : Type) [SerialPort σ] [InterruptiblePort σ] :
    Accountable σ where
  flush p := (InterruptiblePort.flush false p).1
  send bytes t p := (InterruptiblePort.send bytes t p).1
  receive n t watched w := ((InterruptiblePort.receive n t watched).leads w).1
  aborted n t w h := (InterruptiblePort.receive n t true).aborted w h

namespace Arygon.Link

variable {σ : Type}

/-- The frame that wakes a chip: the echo that a recovery asks for, behind the selector. -/
def wakeFrame : Bytes :=
  [0x32, 0x00, 0x00, 0xFF, 0x09, 0xF7, 0xD4, 0x00, 0x00, 0x6C, 0x69, 0x62, 0x6E, 0x66, 0x63, 0xBE,
    0x00]

theorem encodeOp_echo : (Frame.encodeOp Command.echo : Op (Link σ) Bytes) = pure wakeFrame.tail :=
  rfl

/-- Takes any other echo than the text itself for a failure. -/
def judgeEcho (reply : Bytes) : Op (Link σ) Unit := do
  if reply ≠ Command.echoReply then
    Act.log .error Log.chipTopic ("Communication test failed: " ++ Hex.spaced reply)
    throw .io

theorem keeps_judgeEcho (reply : Bytes) : Act.Keeps id (judgeEcho reply : Op (Link σ) Unit) :=
  .ite ((Act.keeps_log _ _ _).bind fun _ => Act.keeps_throw _) (Act.keeps_pure _)

/-- A receiver whose wait was aborted is left where its recovery ends. -/
theorem abandon_state (recovery : Op (Link σ) Unit) (l : Link σ) :
    (abandon recovery l).state = (recovery l).state := by
  unfold abandon
  rw [(Act.attempt_bind _ _ _).2]
  cases (recovery l).result <;> rfl

theorem abandon_congr {recovery recovery' : Op (Link σ) Unit} {l : Link σ}
    (h : recovery l = recovery' l) : abandon recovery l = abandon recovery' l := by
  have hattempt : (recovery.attempt : Op (Link σ) _) l = recovery'.attempt l := by
    rw [Act.attempt_apply, Act.attempt_apply, h]
  unfold abandon
  rw [Act.bind_apply, Act.bind_apply, hattempt]

variable [SerialPort σ]

/-- The wait for the first bytes of a reply. -/
def awaitHeader (t : Timeout) : Op (Link σ) Bytes := watching (SerialPort.receive 5 t true)

/-- A recovery up to the wait for the echo. -/
def askEcho : Op (Link σ) Unit := do
  (onPort (SerialPort.send wakeFrame .infinite)).ignoring
  send Command.echo checkTimeout

/-- A recovery asks for the echo and waits for it. -/
theorem recoverWith_eq (receive : Nat → UInt8 → Timeout → Op (Link σ) Bytes) :
    recoverWith receive =
      askEcho >>= fun _ => receive checkCapacity diagnose checkTimeout >>= judgeEcho := by
  rw [recoverWith, encodeOp_echo, pure_bind, askEcho, bind_assoc]
  rfl

/-- A receiver whose wait is aborted recovers, and reports the abort. -/
theorem receiveWith_of_aborted {capacity : Nat} (hcapacity : capacity ≠ 0) {t : Timeout}
    {l : Link σ} (h : (awaitHeader t l).result = .error .operationAborted)
    (recovery : Op (Link σ) Unit) (command : UInt8) :
    (receiveWith recovery capacity command t l).result = .error .operationAborted ∧
      (receiveWith recovery capacity command t l).state =
        (recovery (awaitHeader t l).state).state := by
  have hwait : (watching (SerialPort.receive 5 t true) l).result = .error .operationAborted := h
  unfold receiveWith
  rw [if_neg hcapacity, (Act.attempt_bind _ _ _).1, (Act.attempt_bind _ _ _).2, hwait]
  exact ⟨abandon_result recovery _, abandon_state recovery _⟩

theorem receiveWithin_of_aborted {capacity : Nat} (hcapacity : capacity ≠ 0) {t : Timeout}
    {l : Link σ} (h : (awaitHeader t l).result = .error .operationAborted) (command : UInt8)
    (m : Nat) : (receiveWithin m capacity command t l).result = .error .operationAborted := by
  cases m with
  | zero => exact (receiveWith_of_aborted hcapacity h _ command).1
  | succ m => exact (receiveWith_of_aborted hcapacity h _ command).1

/-- Only behind an aborted wait does it matter how a receiver recovers. -/
theorem receiveWith_congr {recovery recovery' : Op (Link σ) Unit} {t : Timeout} {l : Link σ}
    (h : (awaitHeader t l).result = .error .operationAborted →
      recovery (awaitHeader t l).state = recovery' (awaitHeader t l).state)
    (capacity : Nat) (command : UInt8) :
    receiveWith recovery capacity command t l = receiveWith recovery' capacity command t l := by
  by_cases hcapacity : capacity = 0
  · unfold receiveWith
    rw [if_pos hcapacity, if_pos hcapacity]
    rfl
  unfold receiveWith
  rw [if_neg hcapacity, if_neg hcapacity]
  refine Act.bind_congr_run fun r hr => ?_
  rcases r with (e | header)
  · cases e with
    | operationAborted => exact abandon_congr (h (Except.ok.inj hr))
    | _ => rfl
  · rfl

/-! ## Counting recoveries -/

/-- A receiver on a link comes to wait on another one, by recoveries inside each other. -/
inductive Waits : Timeout → Link σ → Link σ → Prop where
  | here (t : Timeout) (l : Link σ) : Waits t l l
  | inside {t : Timeout} {l l' l'' : Link σ}
      (haborted : (awaitHeader t l).result = .error .operationAborted)
      (hasked : askEcho.Yields (awaitHeader t l).state () l') (h : Waits checkTimeout l' l'') :
      Waits t l l''

/-- A receiver on a link comes to so many recoveries, each inside the one before. -/
inductive Recoveries : Timeout → Link σ → Nat → Prop where
  | none {t : Timeout} {l : Link σ} (h : (awaitHeader t l).result ≠ .error .operationAborted) :
      Recoveries t l 0
  | unasked {t : Timeout} {l l' : Link σ} {e : Error}
      (haborted : (awaitHeader t l).result = .error .operationAborted)
      (hasked : askEcho.Fails (awaitHeader t l).state e l') : Recoveries t l 1
  | asked {t : Timeout} {l l' : Link σ} {n : Nat}
      (haborted : (awaitHeader t l).result = .error .operationAborted)
      (hasked : askEcho.Yields (awaitHeader t l).state () l') (h : Recoveries checkTimeout l' n) :
      Recoveries t l (n + 1)

/-- **The bound on recoveries is not met** by a receiver that comes to no more of them. -/
theorem Recoveries.receiveWithin_eq {t : Timeout} {l : Link σ} {n : Nat} (h : Recoveries t l n)
    {m : Nat} (hm : n ≤ m) (capacity : Nat) (command : UInt8) :
    receiveWithin m capacity command t l = receiveWithin n capacity command t l := by
  induction h generalizing m capacity command with
  | none h =>
      cases m with
      | zero => rfl
      | succ m => exact receiveWith_congr (fun haborted => absurd haborted h) capacity command
  | unasked haborted hasked =>
      -- the echo is not even asked for, so it does not matter how it would be received
      obtain ⟨m, rfl⟩ := Nat.exists_eq_succ_of_ne_zero (Nat.one_le_iff_ne_zero.mp hm)
      refine receiveWith_congr (fun _ => ?_) capacity command
      rw [recoverWith_eq, recoverWith_eq]
      exact Act.bind_congr_run fun _ hok => absurd (hok.symm.trans hasked.1) nofun
  | @asked t l l' n haborted hasked h ih =>
      obtain ⟨m, rfl⟩ := Nat.exists_eq_succ_of_ne_zero (by omega : m ≠ 0)
      refine receiveWith_congr (fun _ => ?_) capacity command
      rw [recoverWith_eq, recoverWith_eq]
      refine Act.bind_congr_run fun _ _ => ?_
      rw [hasked.2, Act.bind_apply, Act.bind_apply, ih (Nat.le_of_succ_le_succ hm)]

/-! ## Paying for recoveries -/

section Paying

theorem leads_askEcho {R : Link σ → Link σ → Prop} [IsPreorder (Link σ) R] {E : Error → Prop}
    {T : Timeout → Prop} (h : Steps R E T) (hcheck : T checkTimeout) : Act.Leads R E askEcho :=
  (h.send _ _).ignoring.bind fun _ => leads_send h hcheck _

variable [Interruptible σ] (hport : Accountable σ)
include hport

/-- No call of an accountable port makes up requests. -/
theorem steps_accountable : Steps (InvImage (Watched.Consumes 0) (line (σ := σ)))
    (fun _ => True) fun _ => True where
  flush l := ⟨Nat.add_le_add_right (hport.flush l.line.hardware) _, fun _ _ => trivial⟩
  send bytes t l := ⟨Nat.add_le_add_right (hport.send bytes t l.line.hardware) _,
    fun _ _ => trivial⟩
  read n t _ l := ⟨hport.receive n t false l.line, fun _ _ => trivial⟩
  own _ := trivial

theorem leads_awaitHeader (t : Timeout) :
    Act.Leads (InvImage (Watched.Consumes 0) (line (σ := σ))) (fun _ => True) (awaitHeader t) :=
  fun l => ⟨hport.receive 5 t true l.line, fun _ _ => trivial⟩

/-- The wait inside a recovery starts with a request less. -/
theorem consumes_inside {t : Timeout} {l l' : Link σ}
    (haborted : (awaitHeader t l).result = .error .operationAborted)
    (hasked : (askEcho (awaitHeader t l).state).state = l') :
    Watched.Consumes 1 l.line l'.line := by
  have hone : Watched.Consumes 1 l.line (awaitHeader t l).state.line :=
    hport.aborted 5 t l.line haborted
  have hask := (leads_askEcho (steps_accountable hport) trivial (awaitHeader t l).state).1
  rw [hasked] at hask
  exact hone.trans hask

/-- **Each recovery has consumed a request.** -/
theorem Recoveries.consumes {t : Timeout} {l : Link σ} {n : Nat} (h : Recoveries t l n)
    {capacity : Nat} (hcapacity : capacity ≠ 0) (command : UInt8) :
    Watched.Consumes n l.line (receiveWithin n capacity command t l).state.line := by
  -- on the recoveries inside each other, each of which begins with an abort of its own
  induction h generalizing capacity command with
  | none h =>
      exact (leads_receiveWithin (steps_accountable hport) trivial trivial
        (fun _ => leads_awaitHeader hport _) trivial 0 capacity command _).1
  | unasked haborted hasked =>
      rw [receiveWithin, (receiveWith_of_aborted hcapacity haborted _ _).2, recoverWith_eq,
        (hasked.bind _).2]
      exact consumes_inside hport haborted hasked.2
  | @asked t l l' n haborted hasked h ih =>
      rw [receiveWithin, (receiveWith_of_aborted hcapacity haborted _ _).2, recoverWith_eq,
        (hasked.bind _).2]
      have hjudged :
          ((receiveWithin n checkCapacity diagnose checkTimeout >>= judgeEcho) l').state =
            (receiveWithin n checkCapacity diagnose checkTimeout l').state :=
        Act.keeps_after keeps_judgeEcho l'
      rw [hjudged, Nat.add_comm]
      exact (consumes_inside hport haborted hasked.2).trans (ih (by decide) diagnose)

/-- A receiver comes to so many recoveries at most, or to a wait before which as many requests
were consumed. -/
theorem recoveries_or_waits (k : Nat) (t : Timeout) (l : Link σ) :
    (∃ n ≤ k, Recoveries t l n) ∨ ∃ l', Waits t l l' ∧ Watched.Consumes k l.line l'.line := by
  induction k generalizing t l with
  | zero => exact .inr ⟨l, .here t l, Nat.le_refl _⟩
  | succ k ih =>
      by_cases haborted : (awaitHeader t l).result = .error .operationAborted
      · rcases askEcho.yields_or_fails (awaitHeader t l).state with ⟨_, hasked⟩ | ⟨e, hasked⟩
        · rcases ih checkTimeout (askEcho (awaitHeader t l).state).state with
            ⟨n, hn, h⟩ | ⟨l', h, hconsumes⟩
          · exact .inl ⟨n + 1, Nat.succ_le_succ hn, .asked haborted hasked h⟩
          · refine .inr ⟨l', .inside haborted hasked h, ?_⟩
            rw [Nat.add_comm]
            exact (consumes_inside hport haborted rfl).trans hconsumes
        · exact .inl ⟨1, Nat.le_add_left 1 k, .unasked haborted hasked⟩
      · exact .inl ⟨0, Nat.zero_le _, .none haborted⟩

/-- **Recoveries come to an end** if only so many requests are made. -/
theorem exists_recoveries {t : Timeout} {l : Link σ} {k : Nat}
    (hfinite : ∀ l', Waits t l l' → l'.line.requests ≤ l.line.requests + k) :
    ∃ n, Recoveries t l n := by
  -- besides the `k` requests one may have been pending, so that many can not be consumed
  rcases recoveries_or_waits hport (k + 2) t l with ⟨n, -, h⟩ | ⟨l', h, hconsumes⟩
  · exact ⟨n, h⟩
  · have hrequests := hfinite l' h
    have hone := l.line.pending_le_one
    unfold Watched.Consumes at hconsumes
    omega

/-- **An aborted wait is reported as an abort, however its recovery goes**, over any port that
takes its aborts from the signal, as long as only so many requests are made.  The recoveries inside
each other are no more than the requests, and no bound on them is met, be it that of `receive` or a
larger one; the first of them sends the frame that wakes the chip, and then asks for the echo. -/
theorem receive_recovers {capacity : Nat} (hcapacity : capacity ≠ 0) {t : Timeout} {l : Link σ}
    (haborted : (awaitHeader t l).result = .error .operationAborted) {k : Nat}
    (hfinite : ∀ l', Waits t l l' → l'.line.requests ≤ l.line.requests + k) (command : UInt8) :
    (receive capacity command t l).result = .error .operationAborted ∧
      ∃ n, Recoveries t l n ∧ ∀ m, n ≤ m →
        let o := receiveWithin m capacity command t l
        o = receiveWith (recoverWith (receiveWithin m)) capacity command t l ∧
          o.result = .error .operationAborted ∧
          o.state = (echoTest send (receiveWithin m) (onPort (SerialPort.send wakeFrame .infinite)
            (awaitHeader t l).state).state).state ∧
          n + l.line.requests ≤ o.state.line.requests + l.line.pending := by
  obtain ⟨n, h⟩ := exists_recoveries hport hfinite
  refine ⟨receiveWithin_of_aborted hcapacity haborted command maxRecoveries, n, h, fun m hm => ?_⟩
  -- at this depth the recovery inside needs no more than it has at the next
  have hunfold : receiveWithin m capacity command t l =
      receiveWith (recoverWith (receiveWithin m)) capacity command t l :=
    (h.receiveWithin_eq hm capacity command).trans
      (h.receiveWithin_eq (Nat.le_succ_of_le hm) capacity command).symm
  have hconsumes := h.consumes hport hcapacity command
  rw [← h.receiveWithin_eq hm capacity command] at hconsumes
  refine ⟨hunfold, receiveWithin_of_aborted hcapacity haborted command m, ?_, ?_⟩
  · rw [hunfold, (receiveWith_of_aborted hcapacity haborted _ command).2, recoverWith,
      encodeOp_echo, pure_bind]
    rfl
  · unfold Watched.Consumes at hconsumes
    omega

end Paying

end Arygon.Link

/-! ## Planned requests -/

namespace Interrupted

open Arygon Arygon.Link Simulated

variable {σ α : Type}

/-- The requests that are still planned. -/
def planned (i : Interrupted σ) : Nat := i.plan.foldr (fun p n => p.1 + p.2 + n) 0

/-- The requests of a plan that has run its course. -/
def total (i : Interrupted σ) : Nat := i.made + i.planned

theorem total_request (n : Nat) (w : Watched (Interrupted σ)) :
    (request n w).hardware.total = w.hardware.total + n := by
  unfold request
  by_cases hn : n = 0
  · rw [if_pos hn, hn]
    rfl
  · rw [if_neg hn]
    exact Nat.add_right_comm ..

/-- What is made before a read is taken from the plan, with what is made behind it. -/
theorem total_begin (w : Watched (Interrupted σ)) :
    (begin w).hardware.total + (w.hardware.plan.headD (0, 0)).2 = w.hardware.total := by
  unfold begin
  rw [total_request]
  unfold total planned
  cases w.hardware.plan with
  | nil => rfl
  | cons p plan =>
      simp only [List.headD_cons, List.drop_succ_cons, List.drop_zero, List.foldr_cons]
      omega

/-- Reads run a plan and make no other requests. -/
theorem keeps_total_reading (a : Op (Watched σ) α) :
    Act.Keeps (fun w => w.hardware.total) (reading a) := by
  intro w
  change (reading a w).state.hardware.total = w.hardware.total
  rw [reading_state, total_request]
  exact total_begin w

/-- No call of an interrupted port makes requests that are not planned. -/
theorem steps_total [SerialPort σ] :
    Steps (InvImage Eq fun l : Link (Interrupted σ) => l.line.hardware.total) (fun _ => True)
      fun _ => True where
  flush _ := ⟨rfl, fun _ _ => trivial⟩
  send _ _ _ := ⟨rfl, fun _ _ => trivial⟩
  read _ _ _ l := ⟨(keeps_total_reading _ l.line).symm, fun _ _ => trivial⟩
  own _ := trivial

/-- **A plan is finite**: the waits that a receiver comes to see no more requests than are planned
for its line. -/
theorem requests_le_of_waits {t : Timeout} {l l' : Link (Interrupted Line)} (h : Waits t l l') :
    l'.line.requests ≤ l.line.requests + l.line.hardware.planned := by
  have htotal : l.line.hardware.total = l'.line.hardware.total := by
    induction h with
    | here => rfl
    | @inside t l l' l'' _ hasked _ ih =>
        have hask := (leads_askEcho steps_total trivial (awaitHeader t l).state).1
        rw [hasked.2] at hask
        exact ((keeps_total_reading _ l.line).symm.trans hask).trans ih
  unfold total at htotal
  change l'.line.hardware.made + 0 ≤ l.line.hardware.made + 0 + l.line.hardware.planned
  omega

/-- A line whose chip acknowledges each echo and is silent then, while every wait is aborted but
the third. -/
def silentChip : Link (Interrupted Line) where
  line := {
    hardware := {
      hardware := { replies := [[], Frame.ack, [], Frame.ack] }
      plan := [(1, 0), (0, 0), (1, 0)] } }

/-- The chip is woken and asked for an echo twice, and the abort is reported. -/
theorem receive_recovers_twice :
    (awaitHeader .infinite silentChip).result = .error .operationAborted ∧
      (receive 16 0x4A .infinite silentChip).result = .error .operationAborted ∧
      (∃ n, Recoveries .infinite silentChip n ∧
        (receiveWithin n 16 0x4A .infinite silentChip).result = .error .operationAborted) ∧
      (receive 16 0x4A .infinite silentChip).state.line.hardware.hardware.sent =
        List.replicate 4 wakeFrame := by
  have haborted : (awaitHeader .infinite silentChip).result = .error .operationAborted := rfl
  obtain ⟨hresult, n, h, hrun⟩ :=
    receive_recovers (InterruptiblePort.accountable (Interrupted Line)) (by decide : 16 ≠ 0)
      haborted (fun _ => requests_le_of_waits) 0x4A
  exact ⟨haborted, hresult, ⟨n, h, (hrun n (Nat.le_refl n)).2.1⟩, rfl⟩

end Interrupted

end NearField
