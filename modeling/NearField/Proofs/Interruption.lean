import NearField.Abort
import NearField.Proofs.Act
import NearField.Timeout
import NearField.Utf8

/-!
# Requests to abort

A device shares one signal with all the clones of its handle.  Any of them raises the signal at
any time, and a call that notices it lowers it and ends in an abort.  A second request before
the first is noticed makes no difference, so the calls that end in an abort are at most as many
as the requests.

`Honest` is what each call owes to that account: it consumed a request if it ended in an abort,
and else left the requests alone.  Whatever the order in which handles are cloned, requests are
made and an honest transport is used, the account then holds (`aborted_le_requests`).  Requests
that are made while a call waits are counted by the hardware that is waited for; `Interrupted`
is hardware for which they are planned.
-/

namespace NearField

/-- The aborts that a call reports, one or none. -/
def Outcome.aborts {σ α : Type} (o : Outcome Error σ α) : Nat :=
  match o.result with
  | .error .operationAborted => 1
  | _ => 0

/-- Hardware that is waited for.  `requests` counts the requests to abort that were made
meanwhile. -/
class Interruptible (σ : Type) where
  requests : σ → Nat

/-- The requests of hardware do not get less in a call, which does not end in an abort. -/
def Interruptible.Quiet {σ α : Type} [Interruptible σ] (a : Op σ α) : Prop :=
  ∀ p, Interruptible.requests p ≤ Interruptible.requests (a p).state ∧
    (a p).result ≠ .error .operationAborted

namespace Watched

variable {σ τ α β : Type}

/-- The requests that nobody has noticed; a signal holds one of them. -/
def pending (w : Watched σ) : Nat := w.signal.raised.toNat

theorem pending_le_one (w : Watched σ) : w.pending ≤ 1 := Bool.toNat_le _

/-- A request is pending exactly while the signal is raised. -/
theorem pending_eq_one {w : Watched σ} : w.pending = 1 ↔ w.signal.raised = true := by
  cases h : w.signal.raised <;> simp [pending, h]

variable [Interruptible σ]

/-- The requests that were made while the hardware was waited for. -/
def requests (w : Watched σ) : Nat := Interruptible.requests w.hardware

/-- At least `k` requests were consumed between two states. -/
def Consumes (k : Nat) (w w' : Watched σ) : Prop :=
  w.requests + w'.pending + k ≤ w'.requests + w.pending

/-- No request was consumed between two states: one that was pending still is. -/
def Spares (w w' : Watched σ) : Prop := w.pending ≤ w'.pending ∧ Consumes 0 w w'

/-- What two runs consume, they consume together. -/
theorem Consumes.trans {j k : Nat} {w w' w'' : Watched σ} (h : Consumes j w w')
    (h' : Consumes k w' w'') : Consumes (j + k) w w'' := by
  unfold Consumes at *
  omega

instance : IsPreorder (Watched σ) (Consumes 0) where
  refl _ := Nat.le_refl _
  trans _ _ _ h h' := h.trans h'

instance : IsPreorder (Watched σ) Spares where
  refl _ := ⟨Nat.le_refl _, Nat.le_refl _⟩
  trans _ _ _ h h' := ⟨Nat.le_trans h.1 h'.1, h.2.trans h'.2⟩

/-- A run that consumes nothing leaves a raised signal raised. -/
theorem Spares.raised {w w' : Watched σ} (h : Spares w w') (hw : w.signal.raised = true) :
    w'.signal.raised = true :=
  pending_eq_one.mp (Nat.le_antisymm w'.pending_le_one (pending_eq_one.mpr hw ▸ h.1))

/-- A signal is quiet after an abort, unless a further request was made. -/
theorem Consumes.quiet {w w' : Watched σ} (h : Consumes 1 w w')
    (hrequests : w'.requests = w.requests) : w'.signal.raised = false := by
  have hone := w.pending_le_one
  have hzero : w'.pending = 0 := by
    unfold Consumes at h
    omega
  cases hw : w'.signal.raised with
  | false => rfl
  | true => exact absurd (pending_eq_one.mpr hw) (by omega)

/-- A call that ends in an abort consumed a request for it, and any other call none. -/
structure Honest (view : τ → Watched σ) (a : Op τ α) : Prop where
  aborted (s : τ) : (a s).result = .error .operationAborted →
    Consumes 1 (view s) (view (a s).state)
  else_spared (s : τ) : (a s).result ≠ .error .operationAborted →
    Spares (view s) (view (a s).state)

/-- A call that never ends in an abort has only to leave the requests alone. -/
theorem honest_of_leads {view : τ → Watched σ} {a : Op τ α}
    (h : Act.Leads (InvImage Spares view) (· ≠ .operationAborted) a) : Honest view a where
  aborted s hs := absurd rfl ((h s).2 _ hs)
  else_spared s _ := (h s).1

/-- An honest call consumes a request for each abort that it reports. -/
theorem Honest.consumes {view : τ → Watched σ} {a : Op τ α} (h : Honest view a) (s : τ) :
    Consumes (a s).aborts (view s) (view (a s).state) := by
  unfold Outcome.aborts
  split
  · exact h.aborted s ‹_›
  · exact (h.else_spared s ‹_›).2

/-- An honest call leaves no request pending that nobody made. -/
theorem Honest.leads {view : τ → Watched σ} {a : Op τ α} (h : Honest view a) :
    Act.Leads (InvImage (Consumes 0) view) (fun _ => True) a :=
  fun s => ⟨Nat.le_of_add_right_le (h.consumes s), fun _ _ => trivial⟩

/-- A call may go by the state. -/
theorem Honest.get_bind {view : τ → Watched σ} {f : τ → Op τ α} (hf : ∀ s, Honest view (f s)) :
    Honest view (get >>= f) where
  aborted s := (hf s).aborted s
  else_spared s := (hf s).else_spared s

/-- Honest calls may follow each other: the first that ends in an abort is the last. -/
theorem Honest.bind {view : τ → Watched σ} {a : Op τ α} {f : α → Op τ β} (ha : Honest view a)
    (hf : ∀ x, Honest view (f x)) : Honest view (a >>= f) := by
  refine ⟨fun s => ?_, fun s => ?_⟩
  all_goals rcases a.yields_or_fails s with ⟨x, h⟩ | ⟨e, h⟩
  all_goals rw [(h.bind f).1, (h.bind f).2]
  · intro hs
    have hspared := ha.else_spared s (by rw [h.1]; simp)
    have hconsumes := hspared.2.trans ((hf x).aborted _ hs)
    rwa [Nat.zero_add] at hconsumes
  · intro hs
    obtain rfl : e = .operationAborted := Except.error.inj hs
    exact ha.aborted s h.1
  · intro hs
    have hspared := ha.else_spared s (by rw [h.1]; simp)
    exact trans_of Spares hspared ((hf x).else_spared _ hs)
  · intro hs
    refine ha.else_spared s fun haborted => hs ?_
    rw [Except.error.inj (h.1.symm.trans haborted)]

/-- Calls that leave the requests alone may come first. -/
theorem Honest.after {view : τ → Watched σ} {a : Op τ α} {f : α → Op τ β}
    (ha : Act.Leads (InvImage Spares view) (· ≠ .operationAborted) a)
    (hf : ∀ x, Honest view (f x)) : Honest view (a >>= f) :=
  (honest_of_leads ha).bind hf

/-- A call that reports the abort it ran into has consumed no less than that. -/
theorem Honest.attempt_bind {view : τ → Watched σ} {a : Op τ α} {f : Except Error α → Op τ β}
    {E : Error → Prop} (ha : Honest view a)
    (hrest : ∀ r, r ≠ .error .operationAborted → Honest view (f r))
    (habort : Act.Leads (InvImage (Consumes 0) view) E (f (.error .operationAborted)))
    (hend : ∀ s, (f (.error .operationAborted) s).result = .error .operationAborted) :
    Honest view (a.attempt >>= f) := by
  -- what comes behind an abort may only look at the signal again, as a recovery does
  refine ⟨fun s => ?_, fun s => ?_⟩
  all_goals
    rw [(Act.attempt_bind a f s).1, (Act.attempt_bind a f s).2]
    by_cases h : (a s).result = .error .operationAborted
  · rw [h]
    exact fun _ => (ha.aborted s h).trans (habort _).1
  · intro hs
    have hconsumes := (ha.else_spared s h).2.trans ((hrest _ h).aborted _ hs)
    rwa [Nat.zero_add] at hconsumes
  · rw [h]
    exact fun hs => absurd (hend _) hs
  · exact fun hs => trans_of Spares (ha.else_spared s h) ((hrest _ h).else_spared _ hs)

/-- The call `b` is honest, and ends in an abort exactly when `a` does. -/
structure Relays (view : τ → Watched σ) (a : Op τ α) (b : Op τ β) : Prop where
  honest : Honest view b
  aborts_iff (s : τ) :
    (b s).result = .error .operationAborted ↔ (a s).result = .error .operationAborted

/-- What follows an attempt may report the abort that the attempt ended in, and no other. -/
theorem Honest.relays {view : τ → Watched σ} {a : Op τ α} {f : Except Error α → Op τ β}
    (ha : Honest view a)
    (hrest : ∀ r, r ≠ .error .operationAborted →
      Act.Leads (InvImage Spares view) (· ≠ .operationAborted) (f r))
    (habort : Act.Leads (InvImage (Consumes 0) view) (fun _ => True) (f (.error .operationAborted)))
    (hend : ∀ s, (f (.error .operationAborted) s).result = .error .operationAborted) :
    Relays view a (a.attempt >>= f) where
  honest := ha.attempt_bind (fun r hr => honest_of_leads (hrest r hr)) habort hend
  aborts_iff s := by
    rw [(Act.attempt_bind a f s).1]
    refine ⟨fun h => ?_, fun h => by rw [h, hend]⟩
    exact Classical.byContradiction fun hr => (hrest _ hr _).2 _ h rfl

end Watched

/-! ## Requests during a wait -/

/-- Hardware whose reads are interrupted as planned: so many requests are made before each read
looks at the signal, and so many behind it. -/
structure Interrupted (σ : Type) where
  hardware : σ
  plan : List (Nat × Nat) := []
  made : Nat := 0

namespace Interrupted

variable {σ α : Type}

/-- Runs an action of the hardware itself. -/
def below (a : Op σ α) : Op (Interrupted σ) α :=
  a.zoom Interrupted.hardware fun h i => { i with hardware := h }

/-- Runs an action of the hardware itself with the signal. -/
def watching (a : Op (Watched σ) α) : Op (Watched (Interrupted σ)) α :=
  a.zoom (Watched.map Interrupted.hardware) fun v w =>
    ⟨{ w.hardware with hardware := v.hardware }, v.signal⟩

/-- Makes so many requests. -/
def request (n : Nat) (w : Watched (Interrupted σ)) : Watched (Interrupted σ) :=
  if n = 0 then w else ⟨{ w.hardware with made := w.hardware.made + n }, w.signal.raise⟩

/-- Makes the requests that are planned before the next read, which leaves the plan. -/
def begin (w : Watched (Interrupted σ)) : Watched (Interrupted σ) :=
  request (w.hardware.plan.headD (0, 0)).1
    { w with hardware := { w.hardware with plan := w.hardware.plan.drop 1 } }

/-- Reads as planned. -/
def reading (a : Op (Watched σ) α) : Op (Watched (Interrupted σ)) α := do
  let after := ((← get).hardware.plan.headD (0, 0)).2
  modify begin
  let r ← (watching a).attempt
  modify (request after)
  Act.ofExcept r

/-- A read ends as that of the hardware does, once the requests are made that are planned before it.
-/
theorem reading_result (a : Op (Watched σ) α) (w : Watched (Interrupted σ)) :
    (reading a w).result = (a ((begin w).map Interrupted.hardware)).result := by
  unfold reading
  rw [(Act.get_bind _ _).1, (Act.modify_bind _ _ _).1, (Act.attempt_bind _ _ _).1,
    (Act.modify_bind _ _ _).1, Act.ofExcept_apply]
  rfl

/-- Behind a read the requests are made that are planned after it. -/
theorem reading_state (a : Op (Watched σ) α) (w : Watched (Interrupted σ)) :
    (reading a w).state =
      request (w.hardware.plan.headD (0, 0)).2 (watching a (begin w)).state := by
  unfold reading
  rw [(Act.get_bind _ _).2, (Act.modify_bind _ _ _).2, (Act.attempt_bind _ _ _).2,
    (Act.modify_bind _ _ _).2, Act.ofExcept_apply]

/-- Requests do not touch the hardware. -/
theorem hardware_request (n : Nat) (w : Watched (Interrupted σ)) :
    (request n w).hardware.hardware = w.hardware.hardware := by
  unfold request
  split <;> rfl

theorem hardware_begin (w : Watched (Interrupted σ)) :
    (begin w).hardware.hardware = w.hardware.hardware :=
  hardware_request ..

/-- A signal that is raised stays so while a read begins. -/
theorem raised_begin {w : Watched (Interrupted σ)} (hw : w.signal.raised = true) :
    (begin w).signal.raised = true := by
  unfold begin request
  split
  · exact hw
  · rfl

variable [Interruptible σ]

instance : Interruptible (Interrupted σ) where
  requests i := i.made + Interruptible.requests i.hardware

/-- Calls of the hardware are quiet where the hardware's are. -/
theorem quiet_below {a : Op σ α} (ha : Interruptible.Quiet a) :
    Interruptible.Quiet (below a) :=
  fun i => ⟨Nat.add_le_add_left (ha i.hardware).1 _, (ha i.hardware).2⟩

/-- Requests that are made are not lost. -/
theorem spares_request (n : Nat) (w : Watched (Interrupted σ)) :
    Watched.Spares w (request n w) := by
  unfold request
  by_cases hn : n = 0
  · rw [if_pos hn]
    exact refl_of Watched.Spares w
  · rw [if_neg hn]
    refine ⟨w.pending_le_one, ?_⟩
    change w.hardware.made + Interruptible.requests w.hardware.hardware + 1 ≤
      w.hardware.made + n + Interruptible.requests w.hardware.hardware + w.pending
    omega

theorem spares_begin (w : Watched (Interrupted σ)) : Watched.Spares w (begin w) :=
  spares_request _ { w with hardware := { w.hardware with plan := w.hardware.plan.drop 1 } }

/-- Reading the hardware honestly is honest under requests. -/
theorem honest_watching {a : Op (Watched σ) α} (ha : Watched.Honest id a) :
    Watched.Honest id (watching a) := by
  have hconsumes {k : Nat} {w : Watched (Interrupted σ)} {v : Watched σ}
      (h : Watched.Consumes k (w.map Interrupted.hardware) v) : Watched.Consumes k w
        ⟨{ w.hardware with hardware := v.hardware }, v.signal⟩ := by
    have hv : Interruptible.requests w.hardware.hardware + v.pending + k ≤
      Interruptible.requests v.hardware + w.pending := h
    change w.hardware.made + Interruptible.requests w.hardware.hardware + v.pending + k ≤
      w.hardware.made + Interruptible.requests v.hardware + w.pending
    omega
  refine ⟨fun w h => hconsumes (ha.aborted _ h), fun w h => ?_⟩
  obtain ⟨hpending, hv⟩ := ha.else_spared _ h
  exact ⟨hpending, hconsumes hv⟩

/-- Requests that are made around an honest read leave it honest. -/
theorem honest_reading {a : Op (Watched σ) α} (ha : Watched.Honest id a) :
    Watched.Honest id (reading a) := by
  refine .get_bind fun w => .after (Act.leads_modify spares_begin) fun _ => ?_
  have hrest {E : Error → Prop} {r : Except Error α} (hr : ∀ e, r = .error e → E e) (n : Nat) :
      Act.Leads Watched.Spares E
        (modify (request n) >>= fun _ => Act.ofExcept r : Op (Watched (Interrupted σ)) α) :=
    (Act.leads_modify (spares_request n)).bind fun _ => Act.leads_ofExcept hr
  refine (honest_watching ha).attempt_bind (E := fun _ => True) ?_ ?_ fun _ => rfl
  · intro r hr
    refine Watched.honest_of_leads (hrest (E := (· ≠ .operationAborted)) ?_ _)
    rintro e he rfl
    exact hr he
  · exact (hrest (fun _ _ => trivial) _).mono (fun _ _ h => h.2) fun _ h => h

end Interrupted

/-! ## Devices and their handles -/

/-- The calls that carry commands and replies, over watched hardware. -/
structure Transport (σ : Type) where
  send : Bytes → Timeout → Op (Watched σ) Unit
  receive : Nat → UInt8 → Timeout → Op (Watched σ) Bytes

/-- Both calls of a transport are honest. -/
structure Transport.Honest {σ : Type} [Interruptible σ] (t : Transport σ) : Prop where
  send (data : Bytes) (timeout : Timeout) : Watched.Honest id (t.send data timeout)
  receive (capacity : Nat) (command : UInt8) (timeout : Timeout) :
    Watched.Honest id (t.receive capacity command timeout)

/-- What happens around a device: a handle is cloned, an abort is requested through a handle, or
the transport is used. -/
inductive Event where
  | clone (h : Nat)
  | abort (h : Nat)
  | send (data : Bytes) (t : Timeout)
  | receive (capacity : Nat) (command : UInt8) (t : Timeout)
  deriving DecidableEq, Repr

/-- Hardware and the handles to the signal that its calls watch, with the requests that were
made between the calls and the calls that ended in an abort. -/
structure Sharing (σ : Type) where
  hardware : σ
  handles : AbortHandles := {}
  requested : Nat := 0
  aborted : Nat := 0

namespace Sharing

variable {σ α : Type}

/-- The hardware with the signal of the device. -/
def watched (s : Sharing σ) : Watched σ := ⟨s.hardware, s.handles.signals.getD 0 ⟨false⟩⟩

/-- The device after a call that ended in `o`. -/
def after (s : Sharing σ) (o : Outcome Error (Watched σ) α) : Sharing σ where
  hardware := o.state.hardware
  handles := { s.handles with signals := s.handles.signals.set 0 o.state.signal }
  requested := s.requested
  aborted := s.aborted + o.aborts

/-- What an event changes. -/
def step (t : Transport σ) (s : Sharing σ) : Event → Sharing σ
  | .clone h => { s with handles := s.handles.clone h }
  | .abort h => { s with handles := s.handles.abort h, requested := s.requested + 1 }
  | .send data timeout => s.after (t.send data timeout s.watched)
  | .receive capacity command timeout => s.after (t.receive capacity command timeout s.watched)

/-- What events change, one after the other. -/
def run (t : Transport σ) (events : List Event) (s : Sharing σ) : Sharing σ :=
  events.foldl (step t) s

/-- The requests that were made so far, between the calls and during them. -/
def requests [Interruptible σ] (s : Sharing σ) : Nat :=
  s.requested + Interruptible.requests s.hardware

/-! ### One signal -/

/-- All handles lead to the one signal of the device. -/
structure OneSignal (s : Sharing σ) : Prop where
  one : s.handles.signals.length = 1
  places : ∀ p ∈ s.handles.handles, p = 0

variable {s : Sharing σ} {t : Transport σ}

theorem OneSignal.place (hs : OneSignal s) (h : Nat) : s.handles.place h = 0 := by
  unfold AbortHandles.place
  rw [List.getD_eq_getElem?_getD]
  cases hp : s.handles.handles[h]? with
  | none => rfl
  | some p => exact hs.places p (List.mem_of_getElem? hp)

/-- No event makes another signal. -/
theorem OneSignal.step (hs : OneSignal s) (e : Event) : OneSignal (s.step t e) := by
  cases e with
  | clone h =>
      refine ⟨hs.one, fun p hp => ?_⟩
      rcases List.mem_append.mp hp with hp | hp
      · exact hs.places p hp
      · exact (List.mem_singleton.mp hp).trans (hs.place h)
  | abort h => exact ⟨(List.length_modify ..).trans hs.one, hs.places⟩
  | send data timeout => exact ⟨List.length_set.trans hs.one, hs.places⟩
  | receive capacity command timeout => exact ⟨List.length_set.trans hs.one, hs.places⟩

/-- Nor do all of them together. -/
theorem OneSignal.run (hs : OneSignal s) (events : List Event) :
    OneSignal (s.run t events) := by
  induction events generalizing s with
  | nil => exact hs
  | cons e events ih => exact ih (hs.step e)

/-- A device that was just made has one signal. -/
theorem oneSignal_start (p : σ) : OneSignal { hardware := p } where
  one := rfl
  places _ hp := List.mem_singleton.mp hp

/-- The call after which a device is looked at left the signal as it is. -/
theorem OneSignal.watched_after (hs : OneSignal s) (o : Outcome Error (Watched σ) α) :
    (s.after o).watched = o.state := by
  obtain ⟨signal, hsignal⟩ := List.length_eq_one_iff.mp hs.one
  simp only [watched, after, hsignal]
  rfl

/-- Every handle raises the signal of the device. -/
theorem OneSignal.raised_abort (hs : OneSignal s) (h : Nat) :
    (s.step t (.abort h)).watched = s.watched.raise := by
  obtain ⟨signal, hsignal⟩ := List.length_eq_one_iff.mp hs.one
  simp only [watched, Sharing.step, AbortHandles.abort, hs.place h, hsignal]
  rfl

/-! ### The account -/

variable [Interruptible σ]

/-- The calls that ended in an abort, and the request that is pending, are accounted for by the
requests that were made since the hardware had seen `n` of them. -/
def Accounted (n : Nat) (s : Sharing σ) : Prop :=
  n + s.aborted + s.watched.pending ≤ s.requests

variable {n : Nat}

/-- A call that is honest keeps the account. -/
theorem Accounted.after (h : Accounted n s) (hs : OneSignal s) {a : Op (Watched σ) α}
    (ha : Watched.Honest id a) : Accounted n (s.after (a s.watched)) := by
  have hconsumes : s.watched.requests + (a s.watched).state.pending + (a s.watched).aborts ≤
      (a s.watched).state.requests + s.watched.pending := ha.consumes s.watched
  -- the request that the call consumed pays for the abort that it reports
  have hrequests : s.watched.requests + s.requested = s.requests := Nat.add_comm ..
  unfold Accounted at *
  rw [hs.watched_after]
  change _ + (s.aborted + _) + _ ≤ s.requested + (a s.watched).state.requests
  omega

/-- No event unbalances the account. -/
theorem Accounted.step (h : Accounted n s) (hs : OneSignal s) (ht : t.Honest) (e : Event) :
    Accounted n (s.step t e) := by
  cases e with
  | clone k => exact h
  | abort k =>
      have hone := (s.step t (.abort k)).watched.pending_le_one
      unfold Accounted Sharing.requests at *
      simp only [Sharing.step] at *
      omega
  | send data timeout => exact h.after hs (ht.send data timeout)
  | receive capacity command timeout => exact h.after hs (ht.receive capacity command timeout)

/-- Every run of an honest transport keeps the account, event by event. -/
theorem Accounted.run (h : Accounted n s) (hs : OneSignal s) (ht : t.Honest)
    (events : List Event) : Accounted n (s.run t events) := by
  induction events generalizing s with
  | nil => exact h
  | cons e events ih => exact ih (h.step hs ht e) (hs.step e)

/-- **No more calls end in an abort than requests were made**, in whatever order the handles of
a new device are cloned and used and its transport is called. -/
theorem aborted_le_requests (ht : t.Honest) (p : σ) (events : List Event) :
    let s := run t events { hardware := p }
    Interruptible.requests p + s.aborted ≤ s.requests := by
  intro s
  have hstart : Accounted (Interruptible.requests p) { hardware := p } := by
    simp [Accounted, Sharing.requests, watched, Watched.pending]
  exact Nat.le_of_add_right_le (hstart.run (oneSignal_start p) ht events)

end Sharing

/-! ## The account of a transport -/

/-- Neither did a call end in an abort nor is the signal quiet behind it. -/
def Outcome.Spared {σ α : Type} (o : Outcome Error (Watched σ) α) : Prop :=
  o.result ≠ .error .operationAborted ∧ o.state.signal.raised = true

/-- What requests to abort come to over a transport, whatever its hardware is at. -/
structure Transport.Accounting {σ : Type} [Interruptible σ] (t : Transport σ) : Prop where
  /-- No more calls end in an abort than requests were made, at any time. -/
  bounded (p : σ) (events : List Event) :
    let s := Sharing.run t events { hardware := p }
    Interruptible.requests p + s.aborted ≤ s.requests
  /-- A request through any handle raises the signal of the device. -/
  shared (p : σ) (events : List Event) (h : Nat) :
    let s := Sharing.run t events { hardware := p }
    (s.step t (.abort h)).watched = s.watched.raise

/-- A request that meets what a call waits for is not spent. -/
def Transport.SparesRequests {σ : Type} (t : Transport σ) (Available : σ → Prop) : Prop :=
  ∀ w : Watched σ, w.signal.raised = true → Available w.hardware →
    (∀ data timeout, (t.send data timeout w).Spared) ∧
      ∀ capacity command timeout, (t.receive capacity command timeout w).Spared

/-- A request that meets silence is spent on a receiver that was given the room to wait for a reply,
and only a further one is pending behind it. -/
def Transport.SpendsRequests {σ : Type} [Interruptible σ] (t : Transport σ) (Silent : σ → Prop)
    (Room : Nat → Prop) : Prop :=
  ∀ w : Watched σ, w.signal.raised = true → Silent w.hardware →
    ∀ capacity command timeout, Room capacity → timeout ≠ .millis 0 →
      let o := t.receive capacity command timeout w
      o.result = .error .operationAborted ∧
        (o.state.requests = w.requests → o.state.signal.raised = false)

section

variable {σ : Type} [Interruptible σ] {t : Transport σ}

/-- An honest transport keeps the account. -/
theorem Transport.Honest.accounting (ht : t.Honest) : t.Accounting where
  bounded p events := Sharing.aborted_le_requests ht p events
  shared p events h := ((Sharing.oneSignal_start p).run events).raised_abort h

/-- It leaves a request pending in calls that do not end in an abort. -/
theorem Transport.Honest.sparesRequests {Available : σ → Prop} (ht : t.Honest)
    (hsend : ∀ {w : Watched σ}, Available w.hardware → ∀ data timeout,
      (t.send data timeout w).result ≠ .error .operationAborted)
    (hreceive : ∀ {w : Watched σ}, Available w.hardware → ∀ capacity command timeout,
      (t.receive capacity command timeout w).result ≠ .error .operationAborted) :
    t.SparesRequests Available := by
  refine fun w hw h => ⟨fun data timeout => ?_, fun capacity command timeout => ?_⟩
  · have hne := hsend h data timeout
    exact ⟨hne, ((ht.send data timeout).else_spared w hne).raised hw⟩
  · have hne := hreceive h capacity command timeout
    exact ⟨hne, ((ht.receive capacity command timeout).else_spared w hne).raised hw⟩

/-- It spends a request on a receiver that ends in an abort. -/
theorem Transport.Honest.spendsRequests {Silent : σ → Prop} {Room : Nat → Prop} (ht : t.Honest)
    (hsilent : ∀ {w : Watched σ}, w.signal.raised = true → Silent w.hardware →
      ∀ {capacity timeout}, Room capacity → timeout ≠ .millis 0 → ∀ command,
        (t.receive capacity command timeout w).result = .error .operationAborted) :
    t.SpendsRequests Silent Room := by
  intro w hw h capacity command timeout hcapacity htimeout
  have haborted := hsilent hw h hcapacity htimeout command
  refine ⟨haborted, fun hrequests => ?_⟩
  exact ((ht.receive capacity command timeout).aborted w haborted).quiet hrequests

end

end NearField
