import NearField.Act
import Mathlib.Order.Defs.Unbundled

/-!
# How actions end

An action that runs from a state either succeeds or fails, and in both cases leaves a state.
`Act.Yields a s x s'` says that `a` succeeds from `s` with `x` and leaves `s'`, and
`Act.Fails a s e s'` that it fails with `e` and leaves `s'`.  The ways to build an action come
with statements on when it yields and when it fails (`yields_bind`, `fails_bind`, …), so the
runs of a program are taken apart without unfolding its operations.

Four properties of all the runs of an action are followed through it as well: what it keeps
(`Act.Keeps`), what it gives (`Act.Gives`), where it leads and how it may fail (`Act.Leads`), and
that it runs as another action does in related states (`Act.Simulates`).
-/

namespace NearField.Act

variable {ε ε' σ τ α β : Type}

/-- From `s` the action succeeds with `x` and leaves `s'`. -/
def Yields (a : Act ε σ α) (s : σ) (x : α) (s' : σ) : Prop :=
  (a s).result = .ok x ∧ (a s).state = s'

/-- From `s` the action fails with `e` and leaves `s'`. -/
def Fails (a : Act ε σ α) (s : σ) (e : ε) (s' : σ) : Prop :=
  (a s).result = .error e ∧ (a s).state = s'

/-- A run comes to an end in one of two ways. -/
theorem yields_or_fails (a : Act ε σ α) (s : σ) :
    (∃ x, a.Yields s x (a s).state) ∨ ∃ e, a.Fails s e (a s).state := by
  cases h : (a s).result with
  | ok x => exact .inl ⟨x, h, rfl⟩
  | error e => exact .inr ⟨e, h, rfl⟩

/-- An action succeeds in one way only. -/
theorem Yields.unique {a : Act ε σ α} {s s₁ s₂ : σ} {x₁ x₂ : α} (h₁ : a.Yields s x₁ s₁)
    (h₂ : a.Yields s x₂ s₂) : x₁ = x₂ ∧ s₁ = s₂ :=
  ⟨Except.ok.inj (h₁.1.symm.trans h₂.1), h₁.2.symm.trans h₂.2⟩

/-- An action does not both succeed and fail. -/
theorem Yields.not_fails {a : Act ε σ α} {s s₁ s₂ : σ} {x : α} {e : ε} (h : a.Yields s x s₁) :
    ¬ a.Fails s e s₂ := by
  rintro ⟨he, -⟩
  rw [h.1] at he
  cases he

theorem map_eq_ok {r : Except ε α} {f : α → β} {y : β} :
    r.map f = .ok y ↔ ∃ x, r = .ok x ∧ f x = y := by
  cases r <;> simp [Except.map]

@[simp] theorem mapError_ok (f : ε → ε') (x : α) :
    (.ok x : Except ε α).mapError f = .ok x := rfl

@[simp] theorem mapError_error (f : ε → ε') (e : ε) :
    (.error e : Except ε α).mapError f = .error (f e) := rfl

/-- Renaming failures makes no success and undoes none. -/
theorem mapError_eq_ok {r : Except ε α} {f : ε → ε'} {x : α} :
    r.mapError f = .ok x ↔ r = .ok x := by
  cases r <;> simp

/-- A check that fails is not passed. -/
theorem ite_error_eq_ok {p : Prop} [Decidable p] {e : ε} {r : Except ε α} {x : α} :
    (if p then .error e else r) = .ok x ↔ ¬ p ∧ r = .ok x := by
  by_cases h : p <;> simp [h]

/-! ## Steps without effect on a wire -/

@[simp] theorem yields_pure {x y : α} {s s' : σ} :
    (pure x : Act ε σ α).Yields s y s' ↔ x = y ∧ s = s' := by
  simp [Yields]

@[simp] theorem not_fails_pure {x : α} {e : ε} {s s' : σ} :
    ¬ (pure x : Act ε σ α).Fails s e s' := by
  simp [Fails]

@[simp] theorem not_yields_throw {e : ε} {x : α} {s s' : σ} :
    ¬ (throw e : Act ε σ α).Yields s x s' := by
  simp [Yields]

@[simp] theorem yields_log {level : Log.Level} {topic message : String} {x : Unit} {s s' : σ} :
    (log level topic message : Act ε σ Unit).Yields s x s' ↔ s = s' := by
  simp [Yields]

@[simp] theorem not_fails_log {level : Log.Level} {topic message : String} {e : ε} {s s' : σ} :
    ¬ (log level topic message : Act ε σ Unit).Fails s e s' := by
  simp [Fails]

@[simp] theorem yields_get {s t s' : σ} :
    (get : Act ε σ σ).Yields s t s' ↔ s = t ∧ s = s' := by
  simp [Yields]

@[simp] theorem not_fails_get {e : ε} {s s' : σ} : ¬ (get : Act ε σ σ).Fails s e s' := by
  simp [Fails]

@[simp] theorem yields_set {t s s' : σ} {x : PUnit} :
    (set t : Act ε σ PUnit).Yields s x s' ↔ t = s' := by
  simp [Yields]

@[simp] theorem yields_modify {f : σ → σ} {s s' : σ} {x : PUnit} :
    (modify f : Act ε σ PUnit).Yields s x s' ↔ f s = s' := by
  simp [Yields]

@[simp] theorem not_fails_modify {f : σ → σ} {e : ε} {s s' : σ} :
    ¬ (modify f : Act ε σ PUnit).Fails s e s' := by
  simp [Fails]

/-- What was computed is taken over as it is, in the same state and without a record. -/
@[simp] theorem ofExcept_apply (r : Except ε α) (s : σ) : ofExcept r s = ⟨r, s, []⟩ := by
  cases r <;> rfl

/-! ## Actions built from actions -/

/-- After a success the rest decides. -/
theorem Yields.bind {a : Act ε σ α} {s s' : σ} {x : α} (h : a.Yields s x s')
    (f : α → Act ε σ β) : ((a >>= f) s).result = (f x s').result ∧
      ((a >>= f) s).state = (f x s').state := by
  obtain ⟨hx, rfl⟩ := h
  rw [bind_apply]
  revert hx
  rcases a s with ⟨_ | y, s', log⟩ <;> intro hx <;> cases hx
  exact ⟨rfl, rfl⟩

/-- After a failure the rest is left out. -/
theorem Fails.bind {a : Act ε σ α} {s s' : σ} {e : ε} (h : a.Fails s e s')
    (f : α → Act ε σ β) : (a >>= f).Fails s e s' := by
  obtain ⟨he, rfl⟩ := h
  rw [Fails, bind_apply]
  revert he
  rcases a s with ⟨_ | y, s', log⟩ <;> intro he <;> cases he
  exact ⟨rfl, rfl⟩

/-- Reading the state goes on in it. -/
theorem get_bind (f : σ → Act ε σ β) (s : σ) :
    ((get >>= f) s).result = (f s s).result ∧ ((get >>= f) s).state = (f s s).state :=
  ⟨rfl, rfl⟩

/-- A record of the log changes nothing. -/
theorem log_bind (level : Log.Level) (topic message : String) (f : Unit → Act ε σ β) (s : σ) :
    ((log level topic message >>= f) s).result = (f () s).result ∧
      ((log level topic message >>= f) s).state = (f () s).state :=
  ⟨rfl, rfl⟩

/-- Changing the state goes on in the changed one. -/
theorem modify_bind (f : σ → σ) (k : PUnit → Act ε σ β) (s : σ) :
    ((modify f >>= k) s).result = (k ⟨⟩ (f s)).result ∧
      ((modify f >>= k) s).state = (k ⟨⟩ (f s)).state :=
  ⟨rfl, rfl⟩

/-- An attempt goes on with whatever it ends in. -/
theorem attempt_bind (a : Act ε σ α) (f : Except ε α → Act ε' σ β) (s : σ) :
    ((a.attempt >>= f) s).result = (f (a s).result (a s).state).result ∧
      ((a.attempt >>= f) s).state = (f (a s).result (a s).state).state :=
  ⟨rfl, rfl⟩

/-- An attempt whose outcome is taken over is the action itself. -/
theorem attempt_ofExcept_bind (a : Act ε σ α) (f : α → Act ε σ β) :
    (a.attempt >>= fun r => ofExcept r >>= f) = a >>= f := by
  funext s
  rw [bind_apply, bind_apply, attempt_apply]
  rcases a s with ⟨e | x, s', log⟩
  · simp [bind_apply, ofExcept, Act.throw]
  · rfl

/-- A sequence succeeds when both parts do, the second from where the first ended. -/
theorem yields_bind {a : Act ε σ α} {f : α → Act ε σ β} {s s'' : σ} {y : β} :
    (a >>= f).Yields s y s'' ↔ ∃ x s', a.Yields s x s' ∧ (f x).Yields s' y s'' := by
  refine ⟨?_, ?_⟩
  · rintro ⟨hy, rfl⟩
    rcases a.yields_or_fails s with ⟨x, h⟩ | ⟨e, h⟩
    · exact ⟨x, _, h, (h.bind f).1.symm.trans hy, (h.bind f).2.symm⟩
    · exact absurd ((h.bind f).1.symm.trans hy) (by simp)
  · rintro ⟨x, s', h, hy, rfl⟩
    exact ⟨(h.bind f).1.trans hy, (h.bind f).2⟩

/-- A mapped action succeeds when the action itself does. -/
theorem yields_map {a : Act ε σ α} {f : α → β} {s s' : σ} {y : β} :
    (f <$> a).Yields s y s' ↔ ∃ x, a.Yields s x s' ∧ f x = y := by
  simp only [map_eq_pure_bind, yields_bind, yields_pure]
  constructor
  · rintro ⟨x, s', h, rfl, rfl⟩
    exact ⟨x, h, rfl⟩
  · rintro ⟨x, h, rfl⟩
    exact ⟨x, s', h, rfl, rfl⟩

/-- A sequence fails in its first part, or in its second from where the first succeeded. -/
theorem fails_bind {a : Act ε σ α} {f : α → Act ε σ β} {s s'' : σ} {e : ε} :
    (a >>= f).Fails s e s'' ↔
      a.Fails s e s'' ∨ ∃ x s', a.Yields s x s' ∧ (f x).Fails s' e s'' := by
  refine ⟨?_, ?_⟩
  · rintro ⟨he, rfl⟩
    rcases a.yields_or_fails s with ⟨x, h⟩ | ⟨e', h⟩
    · exact .inr ⟨x, _, h, (h.bind f).1.symm.trans he, (h.bind f).2.symm⟩
    · obtain rfl : e' = e := Except.error.inj ((h.bind f).1.symm.trans he)
      exact .inl ⟨h.1, (h.bind f).2.symm⟩
  · rintro (h | ⟨x, s', h, he, rfl⟩)
    · exact h.bind f
    · exact ⟨(h.bind f).1.trans he, (h.bind f).2⟩

/-- After a success the rest runs in the state that is left. -/
theorem bind_of_ok {a : Act ε σ α} {f : α → Act ε σ β} {s : σ} {x : α}
    (h : (a s).result = .ok x) : (a >>= f) s = ⟨(f x (a s).state).result,
      (f x (a s).state).state, (a s).log ++ (f x (a s).state).log⟩ := by
  rw [bind_apply]
  revert h
  rcases a s with ⟨_ | y, s', log⟩ <;> intro h <;> cases h
  rfl

/-- An action goes on with what is computed of its result. -/
theorem bind_result {a : Act ε σ α} {f : α → Act ε σ β} {g : α → Except ε β}
    (hf : ∀ x s, (f x s).result = g x) (s : σ) :
    ((a >>= f) s).result = (a s).result.bind g := by
  rcases a.yields_or_fails s with ⟨x, h⟩ | ⟨e, h⟩
  · rw [(h.bind f).1, h.1]
    exact hf x _
  · rw [(h.bind f).1, h.1]
    rfl

/-- A check that is computed beforehand. -/
theorem require_bind (p : Bool) (e : ε) (f : Unit → Act ε σ α) :
    (require p e >>= f) = if p = true then f () else throw e := by
  cases p <;> rfl

/-- Runs from two states are one if `a` runs from both as one. -/
theorem bind_run_congr {a : Act ε σ α} {s s' : σ} (h : a s = a s') (f : α → Act ε σ β) :
    (a >>= f) s = (a >>= f) s' := by
  rw [bind_apply, bind_apply, h]

/-- Runs are one that go on alike behind whatever `a` gives. -/
theorem bind_congr_run {a : Act ε σ α} {f g : α → Act ε σ β} {s : σ}
    (h : ∀ x, (a s).result = .ok x → f x (a s).state = g x (a s).state) :
    (a >>= f) s = (a >>= g) s := by
  rw [bind_apply, bind_apply]
  revert h
  rcases a s with ⟨_ | x, s', log⟩ <;> intro h
  · rfl
  · exact congrArg (fun o : Outcome ε σ β => (⟨o.result, o.state, log ++ o.log⟩ : Outcome ε σ β))
      (h x rfl)

/-- Runs from two states are one if they get through `a` alike and go on alike. -/
theorem bind_eq_bind {a : Act ε σ α} {f : α → Act ε σ β} {s s' : σ} {x : α}
    (hx : (a s).result = .ok x) (hx' : (a s').result = .ok x) (hlog : (a s).log = (a s').log)
    (hf : f x (a s).state = f x (a s').state) : (a >>= f) s = (a >>= f) s' := by
  rw [bind_of_ok hx, bind_of_ok hx', hlog, hf]

/-- Of a choice the branch counts that is taken. -/
theorem yields_ite {p : Prop} [Decidable p] {a b : Act ε σ α} {s s' : σ} {x : α} :
    (if p then a else b).Yields s x s' ↔ (p ∧ a.Yields s x s') ∨ (¬ p ∧ b.Yields s x s') := by
  by_cases h : p <;> simp [h]

theorem fails_ite {p : Prop} [Decidable p] {a b : Act ε σ α} {s s' : σ} {e : ε} :
    (if p then a else b).Fails s e s' ↔ (p ∧ a.Fails s e s') ∨ (¬ p ∧ b.Fails s e s') := by
  by_cases h : p <;> simp [h]

/-- An action on a part of the state succeeds when it does on that part alone. -/
theorem yields_zoom {get : σ → τ} {set : τ → σ → σ} {a : Act ε τ α} {s s' : σ} {x : α} :
    (a.zoom get set).Yields s x s' ↔ ∃ t, a.Yields (get s) x t ∧ set t s = s' := by
  simp [Yields, and_assoc]

/-- An action on a part of the state fails when it does on that part alone. -/
theorem fails_zoom {get : σ → τ} {set : τ → σ → σ} {a : Act ε τ α} {s s' : σ} {e : ε} :
    (a.zoom get set).Fails s e s' ↔ ∃ t, a.Fails (get s) e t ∧ set t s = s' := by
  simp [Fails, and_assoc]

/-- An attempt always succeeds, with the outcome as its value. -/
theorem yields_attempt {a : Act ε σ α} {r : Except ε α} {s s' : σ} :
    (a.attempt : Act ε' σ (Except ε α)).Yields s r s' ↔ (a s).result = r ∧ (a s).state = s' := by
  simp [Yields]

/-- What runs on a device is taken over, however it ended. -/
theorem yields_around {build : σ → τ} {rest : τ → σ} {a : Act ε τ α} {s s' : σ}
    {p : Except ε α × τ} : (a.around build rest : Act ε' σ _).Yields s p s' ↔
      (a (build s)).result = p.1 ∧ (a (build s)).state = p.2 ∧ rest p.2 = s' := by
  obtain ⟨r, t⟩ := p
  constructor
  · rintro ⟨hp, rfl⟩
    cases hp
    exact ⟨rfl, rfl, rfl⟩
  · rintro ⟨rfl, rfl, rfl⟩
    exact ⟨rfl, rfl⟩

/-! ## What runs keep -/

/-- Every run of the action, whether it succeeds or fails, keeps what `view` shows. -/
def Keeps (view : σ → τ) (a : Act ε σ α) : Prop := ∀ s, view (a s).state = view s

variable {view : σ → τ}

theorem keeps_pure (x : α) : Keeps view (pure x : Act ε σ α) := fun _ => rfl

theorem keeps_throw (e : ε) : Keeps view (throw e : Act ε σ α) := fun _ => rfl

theorem keeps_get : Keeps view (get : Act ε σ σ) := fun _ => rfl

theorem keeps_log (level : Log.Level) (topic message : String) :
    Keeps view (log level topic message : Act ε σ Unit) := fun _ => rfl

/-- A change keeps a view that does not show it. -/
theorem keeps_modify {f : σ → σ} (h : ∀ s, view (f s) = view s) :
    Keeps view (modify f : Act ε σ PUnit) := h

/-- A computed result touches no state. -/
theorem keeps_ofExcept (r : Except ε α) : Keeps view (ofExcept r : Act ε σ α) := by
  intro s
  rw [ofExcept_apply]

theorem keeps_ofOption (e : ε) (x? : Option α) :
    Keeps view (ofOption e x? : Act ε σ α) := by
  cases x? <;> exact fun _ => rfl

theorem keeps_require (p : Bool) (e : ε) : Keeps view (require p e : Act ε σ Unit) := by
  intro s
  rw [require_apply]

/-- What an action keeps, an attempt at it keeps. -/
theorem Keeps.attempt {a : Act ε σ α} (ha : Keeps view a) :
    Keeps view (a.attempt : Act ε' σ (Except ε α)) := ha

/-- What comes second is of no account where it keeps what is looked at. -/
theorem keeps_after {a : Act ε σ α} {f : α → Act ε σ β} (hf : ∀ x, Keeps view (f x)) (s : σ) :
    view ((a >>= f) s).state = view (a s).state := by
  rcases a.yields_or_fails s with ⟨x, h⟩ | ⟨e, h⟩
  · rw [(h.bind f).2, hf]
  · rw [(h.bind f).2]

/-- What both parts of a sequence keep, the sequence keeps. -/
theorem Keeps.bind {a : Act ε σ α} {f : α → Act ε σ β} (ha : Keeps view a)
    (hf : ∀ x, Keeps view (f x)) : Keeps view (a >>= f) :=
  fun s => (keeps_after hf s).trans (ha s)

/-- What both branches keep, the choice keeps. -/
theorem Keeps.ite {p : Prop} [Decidable p] {a b : Act ε σ α} (ha : Keeps view a)
    (hb : Keeps view b) : Keeps view (if p then a else b) := by
  by_cases h : p
  · rw [if_pos h]
    exact ha
  · rw [if_neg h]
    exact hb

/-! ## What runs give -/

section Gives

variable {P : α → Prop} {Q : β → Prop}

/-- Every run of the action that succeeds gives a result with `P`. -/
def Gives (P : α → Prop) (a : Act ε σ α) : Prop := ∀ s x, (a s).result = .ok x → P x

/-- Less may be said of what an action gives. -/
theorem Gives.mono {P' : α → Prop} {a : Act ε σ α} (ha : Gives P a) (h : ∀ x, P x → P' x) :
    Gives P' a :=
  fun s x hx => h x (ha s x hx)

theorem gives_pure {x : α} (h : P x) : Gives P (pure x : Act ε σ α) :=
  fun _ _ hx => Except.ok.inj hx ▸ h

/-- A failure gives nothing, so anything may be said of it. -/
theorem gives_throw (e : ε) : Gives P (throw e : Act ε σ α) := nofun

/-- A computed result gives what was computed. -/
theorem gives_ofExcept {r : Except ε α} (h : ∀ x, r = .ok x → P x) :
    Gives P (ofExcept r : Act ε σ α) := by
  intro s x hx
  rw [ofExcept_apply] at hx
  exact h x hx

/-- A check that is passed holds. -/
theorem gives_require (p : Bool) (e : ε) :
    Gives (fun _ => p = true) (require p e : Act ε σ Unit) := by
  cases p with
  | false => exact gives_throw e
  | true => exact gives_pure rfl

/-- What the second gives counts, on whatever the first gives. -/
theorem Gives.bind {a : Act ε σ α} {f : α → Act ε σ β} (ha : Gives P a)
    (hf : ∀ x, P x → Gives Q (f x)) : Gives Q (a >>= f) := by
  intro s y hy
  rcases a.yields_or_fails s with ⟨x, h⟩ | ⟨e, h⟩
  · exact hf x (ha s x h.1) _ _ ((h.bind f).1.symm.trans hy)
  · exact absurd ((h.bind f).1.symm.trans hy) (by simp)

/-- Only the last part of a sequence counts where nothing is said of the first. -/
theorem Gives.after {a : Act ε σ α} {f : α → Act ε σ β} (hf : ∀ x, Gives Q (f x)) :
    Gives Q (a >>= f) :=
  .bind (P := fun _ => True) (fun _ _ _ => trivial) fun x _ => hf x

/-- What both branches give, the choice gives. -/
theorem Gives.ite {p : Prop} [Decidable p] {a b : Act ε σ α} (ha : Gives P a)
    (hb : Gives P b) : Gives P (if p then a else b) := by
  by_cases h : p
  · rw [if_pos h]
    exact ha
  · rw [if_neg h]
    exact hb

/-- A step is taken first if a test says so. -/
theorem Gives.optionally {p : Prop} [Decidable p] {a : Act ε σ Unit} {f : Unit → Act ε σ α}
    (hf : Gives P (f ())) : Gives P (if p then a >>= f else f ()) :=
  .ite (.after fun _ => hf) hf

/-- What is given does not depend on how much state surrounds an action. -/
theorem Gives.zoom {get : σ → τ} {set : τ → σ → σ} {a : Act ε τ α} (ha : Gives P a) :
    Gives P (a.zoom get set) :=
  fun s => ha (get s)

/-- An attempt gives what the action gives, where that succeeds. -/
theorem Gives.attempt {a : Act ε σ α} (ha : Gives P a) :
    Gives (fun r => ∀ x, r = .ok x → P x) (a.attempt : Act ε' σ (Except ε α)) :=
  fun s _ hr x hx => ha s x ((Except.ok.inj hr).trans hx)

end Gives

/-! ## Where runs lead -/

section Leads

/-- Every run of the action leads along `R`, and those that fail do so with an error of `E`. -/
def Leads (R : σ → σ → Prop) (E : ε → Prop) (a : Act ε σ α) : Prop :=
  ∀ s, R s (a s).state ∧ ∀ e, (a s).result = .error e → E e

variable {R : σ → σ → Prop} {E : ε → Prop} {E' : ε' → Prop}

/-- A coarser relation and more errors may be named. -/
theorem Leads.mono {S : σ → σ → Prop} {F : ε → Prop} {a : Act ε σ α} (ha : Leads R E a)
    (hRS : ∀ s s', R s s' → S s s') (hEF : ∀ e, E e → F e) : Leads S F a :=
  fun s => ⟨hRS _ _ (ha s).1, fun e he => hEF e ((ha s).2 e he)⟩

/-- How an action ends that is attempted is of no account. -/
theorem Leads.attempt {a : Act ε σ α} (ha : Leads R E a) :
    Leads R E' (a.attempt : Act ε' σ (Except ε α)) :=
  fun s => ⟨(ha s).1, nofun⟩

/-- An action whose failure is forgotten leads where it led. -/
theorem Leads.ignoring {a : Act ε σ α} (ha : Leads R E a) :
    Leads R E' (a.ignoring : Act ε' σ Unit) :=
  fun s => ⟨(ha s).1, nofun⟩

/-- Where both branches lead, the choice leads. -/
theorem Leads.ite {p : Prop} [Decidable p] {a b : Act ε σ α} (ha : Leads R E a)
    (hb : Leads R E b) : Leads R E (if p then a else b) := by
  by_cases h : p
  · rw [if_pos h]
    exact ha
  · rw [if_neg h]
    exact hb

/-- Going on by the state leads where each way to go on leads from that state. -/
theorem Leads.get_bind {f : σ → Act ε σ α} (hf : ∀ s, Leads R E (f s)) :
    Leads R E (get >>= f) :=
  fun s => hf s s

/-- A change leads along a relation that holds of it. -/
theorem leads_modify {f : σ → σ} (h : ∀ s, R s (f s)) :
    Leads R E (modify f : Act ε σ PUnit) :=
  fun s => ⟨h s, nofun⟩

/-- States are compared by what is seen of them. -/
instance {S : τ → τ → Prop} [IsPreorder τ S] (f : σ → τ) : IsPreorder σ (InvImage S f) where
  refl s := refl_of S (f s)
  trans _ _ _ h h' := trans_of S h h'

variable [IsPreorder σ R]

theorem leads_pure (x : α) : Leads R E (pure x : Act ε σ α) :=
  fun s => ⟨refl_of R s, nofun⟩

/-- A failure stays in place, and is the one that is named. -/
theorem leads_throw {e : ε} (he : E e) : Leads R E (throw e : Act ε σ α) :=
  fun s => ⟨refl_of R s, fun _ h => Except.error.inj h ▸ he⟩

theorem leads_log (level : Log.Level) (topic message : String) :
    Leads R E (log level topic message : Act ε σ Unit) :=
  fun s => ⟨refl_of R s, nofun⟩

/-- A computed result stays in place, and fails as it was computed. -/
theorem leads_ofExcept {r : Except ε α} (h : ∀ e, r = .error e → E e) :
    Leads R E (ofExcept r : Act ε σ α) := by
  intro s
  rw [ofExcept_apply]
  exact ⟨refl_of R s, h⟩

/-- Where both parts of a sequence lead, the sequence leads. -/
theorem Leads.bind {a : Act ε σ α} {f : α → Act ε σ β} (ha : Leads R E a)
    (hf : ∀ x, Leads R E (f x)) : Leads R E (a >>= f) := by
  intro s
  rcases a.yields_or_fails s with ⟨x, h⟩ | ⟨e, h⟩
  · obtain ⟨hlead, herror⟩ := hf x (a s).state
    rw [(h.bind f).1, (h.bind f).2]
    exact ⟨trans_of R (ha s).1 hlead, herror⟩
  · obtain ⟨hlead, herror⟩ := ha s
    refine ⟨?_, fun e' he' => ?_⟩
    · rw [(h.bind f).2]
      exact hlead
    · obtain rfl : e = e' := Except.error.inj ((h.bind f).1.symm.trans he')
      exact herror e h.1

/-- A mapped action leads where the action itself does. -/
theorem Leads.map {a : Act ε σ α} (ha : Leads R E a) (f : α → β) : Leads R E (f <$> a) := by
  rw [map_eq_pure_bind]
  exact ha.bind fun x => leads_pure (f x)

/-- What follows an attempt leads on, behind a failure of `E` as well. -/
theorem Leads.attempt_bind {a : Act ε σ α} {f : Except ε α → Act ε' σ β} (ha : Leads R E a)
    (hok : ∀ x, Leads R E' (f (.ok x))) (herror : ∀ e, E e → Leads R E' (f (.error e))) :
    Leads R E' (a.attempt >>= f) := by
  intro s
  obtain ⟨hlead, hfail⟩ := ha s
  have hgoesOn : Leads R E' (f (a s).result) := by
    cases h : (a s).result with
    | ok x => exact hok x
    | error e => exact herror e (hfail e h)
  rw [(Act.attempt_bind a f s).1, (Act.attempt_bind a f s).2]
  exact ⟨trans_of R hlead (hgoesOn _).1, (hgoesOn _).2⟩

/-- What comes second leads on from where the first has led. -/
theorem leads_after {a : Act ε σ α} {f : α → Act ε σ β} (hf : ∀ x, Leads R E (f x)) (s : σ) :
    R (a s).state ((a >>= f) s).state := by
  rcases a.yields_or_fails s with ⟨x, h⟩ | ⟨e, h⟩
  · rw [(h.bind f).2]
    exact (hf x _).1
  · rw [(h.bind f).2]
    exact refl_of R _

/-- A step that is taken or left out by a test. -/
theorem Leads.optionally {p : Prop} [Decidable p] {a : Act ε σ Unit} {f : Unit → Act ε σ β}
    (ha : Leads R E a) (hf : Leads R E (f ())) : Leads R E (if p then a >>= f else f ()) :=
  .ite (ha.bind fun _ => hf) hf

end Leads

/-! ## Runs side by side -/

section Simulates

variable {R : σ → τ → Prop}

/-- From related states both actions end in the same way, and leave related states. -/
def Simulates (R : σ → τ → Prop) (a : Act ε σ α) (b : Act ε τ α) : Prop :=
  ∀ s t, R s t → (a s).result = (b t).result ∧ R (a s).state (b t).state

/-- Two runs that give the same end alike. -/
theorem Yields.alike {a : Act ε σ α} {b : Act ε τ α} {s s' : σ} {t t' : τ} {x : α}
    (ha : a.Yields s x s') (hb : b.Yields t x t') (h : R s' t') :
    (a s).result = (b t).result ∧ R (a s).state (b t).state := by
  rw [ha.1, hb.1, ha.2, hb.2]
  exact ⟨rfl, h⟩

/-- Two runs that fail with the same error end alike. -/
theorem Fails.alike {a : Act ε σ α} {b : Act ε τ α} {s s' : σ} {t t' : τ} {e : ε}
    (ha : a.Fails s e s') (hb : b.Fails t e t') (h : R s' t') :
    (a s).result = (b t).result ∧ R (a s).state (b t).state := by
  rw [ha.1, hb.1, ha.2, hb.2]
  exact ⟨rfl, h⟩

theorem simulates_pure (x : α) : Simulates R (pure x : Act ε σ α) (pure x) :=
  fun _ _ h => ⟨rfl, h⟩

theorem simulates_throw (e : ε) : Simulates R (throw e : Act ε σ α) (throw e) :=
  fun _ _ h => ⟨rfl, h⟩

/-- A computed result is the same beside any states. -/
theorem simulates_ofExcept (r : Except ε α) : Simulates R (ofExcept r) (ofExcept r) := by
  intro s t h
  rw [ofExcept_apply, ofExcept_apply]
  exact ⟨rfl, h⟩

theorem simulates_ofOption (e : ε) (x? : Option α) :
    Simulates R (ofOption e x?) (ofOption e x?) := by
  cases x? with
  | none => exact simulates_throw e
  | some x => exact simulates_pure x

theorem simulates_require (p : Bool) (e : ε) : Simulates R (require p e) (require p e) := by
  cases p with
  | false => exact simulates_throw e
  | true => exact simulates_pure ()

/-- An action of its own runs alike beside any states. -/
theorem simulates_beside {υ : Type} (u : υ) (a : Act ε υ α) :
    Simulates R (a.zoom (fun _ => u) fun _ s => s) (a.zoom (fun _ => u) fun _ t => t) :=
  fun _ _ h => ⟨rfl, h⟩

theorem simulates_log (level : Log.Level) (topic message : String) :
    Simulates R (log level topic message : Act ε σ Unit) (log level topic message) :=
  fun _ _ h => ⟨rfl, h⟩

/-- An action runs as itself from the same state. -/
theorem simulates_refl (a : Act ε σ α) : Simulates Eq a a := by
  rintro s _ rfl
  exact ⟨rfl, rfl⟩

/-- A record of the log is of no account for how an action runs. -/
theorem Simulates.behind_log {level : Log.Level} {topic message : String} {f : Unit → Act ε σ α}
    {b : Act ε τ α} (hfb : Simulates R (f ()) b) :
    Simulates R (log level topic message >>= f) b :=
  hfb

/-- Changes go side by side if they keep the relation. -/
theorem simulates_modify {f : σ → σ} {g : τ → τ} (h : ∀ s t, R s t → R (f s) (g t)) :
    Simulates R (modify f : Act ε σ PUnit) (modify g) :=
  fun s t hst => ⟨rfl, h s t hst⟩

/-- Both go on alike, on whatever the first of them gives. -/
theorem Simulates.bind_gives {P : α → Prop} {a : Act ε σ α} {b : Act ε τ α} {f : α → Act ε σ β}
    {g : α → Act ε τ β} (hab : Simulates R a b) (hb : Gives P b)
    (hfg : ∀ x, P x → Simulates R (f x) (g x)) : Simulates R (a >>= f) (b >>= g) := by
  intro s t hst
  obtain ⟨hresult, hstate⟩ := hab s t hst
  -- `b` ends as `a` does, so either both go on, with the same `x`, or neither
  rcases a.yields_or_fails s with ⟨x, h⟩ | ⟨e, h⟩
  · have hy : b.Yields t x (b t).state := ⟨hresult ▸ h.1, rfl⟩
    rw [(h.bind f).1, (h.bind f).2, (hy.bind g).1, (hy.bind g).2]
    exact hfg x (hb t x hy.1) _ _ hstate
  · have hy : b.Fails t e (b t).state := ⟨hresult ▸ h.1, rfl⟩
    rw [(h.bind f).1, (h.bind f).2, (hy.bind g).1, (hy.bind g).2]
    exact ⟨rfl, hstate⟩

/-- Sequences go side by side if their parts do. -/
theorem Simulates.bind {a : Act ε σ α} {b : Act ε τ α} {f : α → Act ε σ β} {g : α → Act ε τ β}
    (hab : Simulates R a b) (hfg : ∀ x, Simulates R (f x) (g x)) :
    Simulates R (a >>= f) (b >>= g) :=
  hab.bind_gives (P := fun _ => True) (fun _ _ _ => trivial) fun x _ => hfg x

/-- Actions that go by the state do so by related ones. -/
theorem Simulates.get_bind {f : σ → Act ε σ β} {g : τ → Act ε τ β}
    (h : ∀ s t, R s t → Simulates R (f s) (g t)) : Simulates R (get >>= f) (get >>= g) :=
  fun s t hst => h s t hst s t hst

/-- Attempts go side by side if the actions do. -/
theorem Simulates.attempt {a : Act ε σ α} {b : Act ε τ α} (hab : Simulates R a b) :
    Simulates R (a.attempt : Act ε' σ (Except ε α)) b.attempt := by
  intro s t hst
  obtain ⟨hresult, hstate⟩ := hab s t hst
  exact ⟨congrArg Except.ok hresult, hstate⟩

/-- Choices go side by side if their branches do and the test is the same. -/
theorem Simulates.ite {p : Prop} [Decidable p] {a a' : Act ε σ α} {b b' : Act ε τ α}
    (h : Simulates R a b) (h' : Simulates R a' b') :
    Simulates R (if p then a else a') (if p then b else b') := by
  by_cases hp : p
  · rw [if_pos hp, if_pos hp]
    exact h
  · rw [if_neg hp, if_neg hp]
    exact h'

/-- A step that is taken or left out by a test. -/
theorem Simulates.optionally {p : Prop} [Decidable p] {a : Act ε σ Unit} {b : Act ε τ Unit}
    {f : Unit → Act ε σ β} {g : Unit → Act ε τ β} (hab : Simulates R a b)
    (hfg : Simulates R (f ()) (g ())) :
    Simulates R (if p then a >>= f else f ()) (if p then b >>= g else g ()) :=
  .ite (hab.bind fun _ => hfg) hfg

end Simulates

end NearField.Act
