import NearField.Proofs.Arygon.Interruption
import NearField.Serial.Sliced

/-!
# Aborts over a line that is read in slices

A sliced port looks for a request in front of each slice, and takes it before the line is asked for
anything (`readSlices_raised`).  So what it reports as an abort it has taken from the signal, and a
read without the signal is never aborted (`heeds_readSlices`).  A request that is pending when a
read begins is always spent on it, whatever the line has to read.
-/

namespace NearField

/-- A line of the host as far as requests to abort are concerned: its calls lose no requests, and
leave the signal to others. -/
class InterruptibleHost (σ : Type) [HostLine σ] extends Interruptible σ where
  setTimeout (ms : Nat) (p : σ) : requests p ≤ requests (HostLine.setTimeout ms p).state
  clear (p : σ) : requests p ≤ requests (HostLine.clear p).state
  write (bytes : Bytes) (p : σ) : requests p ≤ requests (HostLine.write bytes p).state
  read (n : Nat) (w : Watched σ) : Watched.Spares w (HostLine.read n w).state

/-- The host reports no aborts. -/
theorem SystemFailure.toError_ne_operationAborted (f : SystemFailure) :
    f.toError ≠ .operationAborted := by
  cases f <;> decide

/-- Nor does a slice, where an interrupted read has another name. -/
theorem SliceFailure.toError_ne_operationAborted (f : SliceFailure) :
    f.toError ≠ .operationAborted := by
  cases f with
  | interrupted => decide
  | system f => exact f.toError_ne_operationAborted

namespace Sliced

variable {σ α β : Type}

/-! ## Requests -/

section Heed

variable {w : Watched σ}

/-- A request that is pending is taken. -/
theorem heed_of_raised (hw : w.signal.raised = true) :
    heed.Fails w .operationAborted { w with signal := ⟨false⟩ } := by
  refine Act.fails_bind.mpr (.inr ⟨w, w, ⟨rfl, rfl⟩, Act.fails_ite.mpr (.inl ⟨hw, ?_⟩)⟩)
  exact ⟨rfl, rfl⟩

/-- Without a request nothing happens. -/
theorem heed_of_quiet (hw : w.signal.raised = false) : heed.Yields w () w := by
  refine Act.yields_bind.mpr ⟨w, w, ⟨rfl, rfl⟩, Act.yields_ite.mpr (.inr ⟨?_, rfl, rfl⟩)⟩
  rw [hw]
  decide

end Heed

/-- A call that takes each abort it reports from the signal, and reports none if it was not given
the signal. -/
structure Heeds [Interruptible σ] (watched : Bool) (a : Op (Watched σ) α) : Prop where
  honest : Watched.Honest id a
  unwatched (w : Watched σ) : watched = false → (a w).result ≠ .error .operationAborted

section Heeds

variable [Interruptible σ] {watched : Bool}

/-- A call that leaves the signal alone and is not aborted heeds it. -/
theorem heeds_of_leads {a : Op (Watched σ) α}
    (h : Act.Leads Watched.Spares (· ≠ .operationAborted) a) : Heeds watched a where
  honest := Watched.honest_of_leads h
  unwatched w _ haborted := (h w).2 _ haborted rfl

theorem Heeds.get_bind {f : Watched σ → Op (Watched σ) α} (hf : ∀ w, Heeds watched (f w)) :
    Heeds watched (get >>= f) where
  honest := .get_bind fun w => (hf w).honest
  unwatched w := (hf w).unwatched w

theorem Heeds.bind {a : Op (Watched σ) α} {f : α → Op (Watched σ) β} (ha : Heeds watched a)
    (hf : ∀ x, Heeds watched (f x)) : Heeds watched (a >>= f) where
  honest := ha.honest.bind fun x => (hf x).honest
  unwatched w hwatched haborted := by
    rcases Act.fails_bind.mp ⟨haborted, rfl⟩ with h | ⟨x, w', -, h⟩
    · exact ha.unwatched w hwatched h.1
    · exact (hf x).unwatched w' hwatched h.1

/-- The signal is looked at where the call was given it. -/
theorem heeds_heed (hwatched : watched = true) : Heeds watched (heed : Op (Watched σ) Unit) where
  honest := by
    refine ⟨fun w h => ?_, fun w h => ?_⟩
    all_goals cases hw : w.signal.raised
    · cases (heed_of_quiet hw).1.symm.trans h
    · rw [(heed_of_raised hw).2]
      have hone := Watched.pending_eq_one.mpr hw
      change w.requests + 0 + 1 ≤ w.requests + w.pending
      omega
    · rw [(heed_of_quiet hw).2]
      exact refl_of Watched.Spares w
    · exact absurd (heed_of_raised hw).1 h
  unwatched _ h := by
    rw [hwatched] at h
    cases h

end Heeds

/-! ## Slices -/

variable [HostLine σ] {w : Watched (Sliced σ)} {slices n : Nat} {left : Option Nat}

/-- A request that is pending is taken in front of the first slice. -/
theorem readSlices_raised (hw : w.signal.raised = true) (hslices : slices ≠ 0) (hn : n ≠ 0) :
    (readSlices true slices left n).Fails w .operationAborted { w with signal := ⟨false⟩ } := by
  obtain ⟨k, rfl⟩ := Nat.exists_eq_succ_of_ne_zero hslices
  obtain ⟨m, rfl⟩ := Nat.exists_eq_succ_of_ne_zero hn
  refine Act.Fails.bind (Act.Fails.bind ?_ _) _
  exact heed_of_raised hw

/-- A read of some bytes is aborted by a pending request, and the line is not asked for any. -/
theorem receive_raised (hw : w.signal.raised = true) (hn : n ≠ 0) (t : Timeout) :
    (receive n t true).Fails w .operationAborted { w with signal := ⟨false⟩ } := by
  unfold receive
  cases t.duration? with
  | none => exact (readSlices_raised hw (Nat.succ_ne_zero _) hn).bind _
  | some ms => exact (readSlices_raised hw (Nat.succ_ne_zero _) hn).bind _

variable [InterruptibleHost σ] {watched : Bool}

instance : Interruptible (Sliced σ) where
  requests s := Interruptible.requests s.line

/-- A line leaves the signal alone within a slice. -/
theorem leads_readSlice (n : Nat) : Act.Leads Watched.Spares (· ≠ .operationAborted)
    (readSlice n : Op (Watched (Sliced σ)) (Bytes × Nat)) := by
  have hread : Act.Leads Watched.Spares (fun _ => True)
      (watching (HostLine.read n) : Act SliceFailure (Watched (Sliced σ)) Bytes) :=
    fun w => ⟨InterruptibleHost.read n (w.map Sliced.line), fun _ _ => trivial⟩
  refine .get_bind fun _ => hread.attempt.bind fun read => .get_bind fun _ => ?_
  rcases read with e | _ | ⟨byte, bytes⟩
  · exact .ite (Act.leads_pure _) (Act.leads_throw e.toError_ne_operationAborted)
  · exact Act.leads_throw (by decide)
  · exact Act.leads_pure _

/-- What stands in front of a slice looks at the signal first, and then at the time. -/
theorem heeds_beforeSlice (left : Option Nat) :
    Heeds watched (beforeSlice watched left : Op (Watched (Sliced σ)) Unit) := by
  have htime : Act.Leads Watched.Spares (· ≠ .operationAborted) (do
      if left = some 0 then
        Act.log .debug Log.uartTopic "Timeout!"
        throw .timeout : Op (Watched (Sliced σ)) Unit) :=
    .ite ((Act.leads_log _ _ _).bind fun _ => Act.leads_throw (by decide)) (Act.leads_pure _)
  cases watched with
  | false => exact heeds_of_leads htime
  | true => exact (heeds_heed rfl).bind fun _ => heeds_of_leads htime

/-- By induction on the slices: the signal is looked at in front of each, and left alone in them. -/
theorem heeds_readSlices (slices : Nat) (left : Option Nat) (n : Nat) :
    Heeds watched (readSlices watched slices left n : Op (Watched (Sliced σ)) Bytes) := by
  induction slices generalizing left n with
  | zero =>
      cases n with
      | zero => exact heeds_of_leads (Act.leads_pure [])
      | succ n => exact heeds_of_leads (Act.leads_throw (by decide))
  | succ slices ih =>
      cases n with
      | zero => exact heeds_of_leads (Act.leads_pure [])
      | succ n =>
          refine (heeds_beforeSlice left).bind fun _ => ?_
          refine (heeds_of_leads (leads_readSlice _)).bind fun _ => ?_
          exact (ih _ _).bind fun rest => heeds_of_leads (Act.leads_pure _)

/-- A read takes each abort it reports from the signal, however long it may wait. -/
theorem heeds_receive (n : Nat) (t : Timeout) :
    Heeds watched (receive n t watched : Op (Watched (Sliced σ)) Bytes) := by
  have hlogged {a : Op (Watched (Sliced σ)) Bytes} (ha : Heeds watched a) : Heeds watched (do
      let bytes ← a
      Act.log .trace Log.uartTopic ("RX: " ++ Hex.spaced bytes)
      return bytes) :=
    ha.bind fun _ => heeds_of_leads ((Act.leads_log _ _ _).bind fun _ => Act.leads_pure _)
  unfold receive
  cases t.duration? with
  | none => exact hlogged (heeds_readSlices _ _ _)
  | some ms => exact hlogged (heeds_readSlices _ _ _)

/-! ## Other calls -/

/-- No requests are lost between two lines. -/
def Grows (s s' : Sliced σ) : Prop := Interruptible.requests s ≤ Interruptible.requests s'

instance : IsPreorder (Sliced σ) Grows where
  refl _ := Nat.le_refl _
  trans _ _ _ h h' := Nat.le_trans h h'

/-- A call of the host that loses no requests is not aborted. -/
theorem leads_calling {a : Act SystemFailure σ α}
    (ha : ∀ p, Interruptible.requests p ≤ Interruptible.requests (a p).state) :
    Act.Leads Grows (· ≠ .operationAborted) (calling a) := by
  refine fun s => ⟨ha s.line, fun e he => ?_⟩
  change (a s.line).result.mapError SystemFailure.toError = .error e at he
  cases hresult : (a s.line).result with
  | ok x => cases (hresult ▸ he)
  | error f =>
      rw [hresult] at he
      cases he
      exact f.toError_ne_operationAborted

/-- Sending sets the timeout of the line and sets it back, and looks at no signal. -/
theorem leads_send (bytes : Bytes) (t : Timeout) :
    Act.Leads Grows (· ≠ .operationAborted) (send bytes t : Op (Sliced σ) Unit) := by
  have hset (ms : Nat) : Act.Leads Grows (· ≠ .operationAborted)
      (calling (HostLine.setTimeout ms) : Op (Sliced σ) Unit) :=
    leads_calling (InterruptibleHost.setTimeout ms)
  have hwrite : Act.Leads Grows (· ≠ .operationAborted)
      (calling (HostLine.write bytes) : Op (Sliced σ) Unit) :=
    leads_calling (InterruptibleHost.write bytes)
  have hrest : Act.Leads Grows (· ≠ .operationAborted) (do
      let written ← (calling (HostLine.write bytes)).attempt
      calling (HostLine.setTimeout slice)
      Act.ofExcept written : Op (Sliced σ) Unit) := by
    refine hwrite.attempt_bind (fun _ => (hset _).bind fun _ => Act.leads_pure _) fun e he => ?_
    exact (hset _).bind fun _ => Act.leads_throw he
  refine (Act.leads_log _ _ _).bind fun _ => ?_
  cases t.duration? with
  | none => exact hrest
  | some ms => exact (hset ms).bind fun _ => hrest

/-- A call that loses no requests and is not aborted is quiet. -/
theorem quiet_of_leads {a : Op (Sliced σ) α} (ha : Act.Leads Grows (· ≠ .operationAborted) a) :
    Interruptible.Quiet a :=
  fun s => ⟨(ha s).1, fun h => (ha s).2 _ h rfl⟩

instance : InterruptiblePort (Sliced σ) where
  flush _ := quiet_of_leads (leads_calling InterruptibleHost.clear)
  send bytes t := quiet_of_leads (leads_send bytes t)
  receive n t _ := (heeds_receive n t).honest
  unwatched n t w := (heeds_receive n t).unwatched w rfl

/-- Nothing needs to be silent: a request that is pending ends every read that is given the
signal. -/
instance : WatchfulPort (Sliced σ) where
  Silent n _ := n ≠ 0
  silent hn hw _ _ := (receive_raised hw hn _).1

end Sliced

/-! ## Lines in memory -/

namespace Simulated.Line

/-- A line in memory has nothing to wait for: what is there comes at once, and nothing else
comes. -/
instance : HostLine Line where
  setSpeed n := modify fun l => { l with speed := n }
  setTimeout _ := pure ()
  clear := modify fun l => { l with input := [], flushes := l.flushes + 1 }
  write bytes := do
    let l ← get
    if l.closed then throw .other
    set { l with
      sent := l.sent ++ [bytes], input := l.input ++ l.replies.headD [],
      replies := l.replies.drop 1 }
  read n := do
    let w ← get
    if w.hardware.input = [] then throw (.system .timedOut)
    set { w with hardware := { w.hardware with input := w.hardware.input.drop n } }
    return w.hardware.input.take n

instance : InterruptibleHost Line where
  setTimeout _ _ := Nat.le_refl _
  clear _ := Nat.le_refl _
  write _ _ := Nat.le_refl _
  read n w := by
    obtain ⟨⟨sent, replies, input, speed, flushes, closed⟩, signal⟩ := w
    cases input <;> exact ⟨Nat.le_refl _, Nat.le_refl _⟩

end Simulated.Line

end NearField
