import NearField.Error
import NearField.Log

/-!
# Actions

An `Act ε σ α` runs on a state and ends with a result or a failure, a new state, and the
records it logged.  The state and the records survive a failure: what was written to a wire
stays written.  `Act.zoom` runs an action on a part of a larger state.
-/

namespace NearField

/-- What an action leaves behind. -/
structure Outcome (ε σ α : Type) where
  result : Except ε α
  state : σ
  log : List Log.Record

/-- A computation on a state that may fail and logs. -/
def Act (ε σ α : Type) : Type := σ → Outcome ε σ α

/-- An action that fails with a library error. -/
abbrev Op (σ α : Type) : Type := Act Error σ α

namespace Act

variable {ε ε' σ τ α β γ : Type}

/-- Runs an action from a state. -/
def run (a : Act ε σ α) (s : σ) : Outcome ε σ α := a s

/-- Succeeds and changes nothing. -/
protected def pure (x : α) : Act ε σ α := fun s => ⟨.ok x, s, []⟩

/-- Runs `a`, then `f` on its result and in its state. -/
protected def bind (a : Act ε σ α) (f : α → Act ε σ β) : Act ε σ β := fun s =>
  match a s with
  | ⟨.ok x, s', log⟩ =>
    let o := f x s'
    ⟨o.result, o.state, log ++ o.log⟩
  | ⟨.error e, s', log⟩ => ⟨.error e, s', log⟩

instance : Monad (Act ε σ) where
  pure := Act.pure
  bind := Act.bind

/-- Fails and changes nothing. -/
protected def throw (e : ε) : Act ε σ α := fun s => ⟨.error e, s, []⟩

/-- Runs `a`; on a failure goes on with `f` in the state that `a` left. -/
protected def tryCatch (a : Act ε σ α) (f : ε → Act ε σ α) : Act ε σ α := fun s =>
  match a s with
  | ⟨.ok x, s', log⟩ => ⟨.ok x, s', log⟩
  | ⟨.error e, s', log⟩ =>
    let o := f e s'
    ⟨o.result, o.state, log ++ o.log⟩

instance : MonadExceptOf ε (Act ε σ) where
  throw := Act.throw
  tryCatch := Act.tryCatch

instance : MonadStateOf σ (Act ε σ) where
  get := fun s => ⟨.ok s, s, []⟩
  set s := fun _ => ⟨.ok ⟨⟩, s, []⟩
  modifyGet f := fun s => ⟨.ok (f s).1, (f s).2, []⟩

@[simp] theorem pure_apply (x : α) (s : σ) : (pure x : Act ε σ α) s = ⟨.ok x, s, []⟩ := rfl

theorem bind_apply (a : Act ε σ α) (f : α → Act ε σ β) (s : σ) :
    (a >>= f) s = match a s with
      | ⟨.ok x, s', log⟩ => ⟨(f x s').result, (f x s').state, log ++ (f x s').log⟩
      | ⟨.error e, s', log⟩ => ⟨.error e, s', log⟩ := rfl

@[simp] theorem throw_apply (e : ε) (s : σ) :
    (throw e : Act ε σ α) s = ⟨.error e, s, []⟩ := rfl

theorem bind_pure' (a : Act ε σ α) : Act.bind a Act.pure = a := by
  funext s
  simp only [Act.bind, Act.pure]
  rcases h : a s with ⟨_ | x, s', log⟩ <;> simp

theorem bind_assoc' (a : Act ε σ α) (f : α → Act ε σ β) (g : β → Act ε σ γ) :
    a >>= f >>= g = a >>= fun x => f x >>= g := by
  funext s
  simp only [bind_apply]
  rcases a s with ⟨_ | x, s', log⟩
  · rfl
  · simp only
    rcases f x s' with ⟨_ | y, s'', log'⟩
    · rfl
    · simp [List.append_assoc]

instance : LawfulMonad (Act ε σ) :=
  LawfulMonad.mk' (Act ε σ) bind_pure' (fun _ _ => by funext s; simp [bind_apply]) bind_assoc'

@[simp] theorem get_apply (s : σ) : (get : Act ε σ σ) s = ⟨.ok s, s, []⟩ := rfl

@[simp] theorem set_apply (s' s : σ) : (set s' : Act ε σ PUnit) s = ⟨.ok ⟨⟩, s', []⟩ := rfl

@[simp] theorem modify_apply (f : σ → σ) (s : σ) :
    (modify f : Act ε σ PUnit) s = ⟨.ok ⟨⟩, f s, []⟩ := rfl

/-- Logs one record. -/
def log (level : Log.Level) (topic message : String) : Act ε σ Unit := fun s =>
  ⟨.ok (), s, [⟨level, topic, message⟩]⟩

/-- Takes over a computed result. -/
def ofExcept : Except ε α → Act ε σ α
  | .ok x => Act.pure x
  | .error e => Act.throw e

/-- Takes over an optional result; `e` stands for its absence. -/
def ofOption (e : ε) : Option α → Act ε σ α
  | some x => Act.pure x
  | none => Act.throw e

/-- Runs an action and hands its success or failure on as a value. -/
def attempt (a : Act ε σ α) : Act ε' σ (Except ε α) := fun s =>
  let o := a s
  ⟨.ok o.result, o.state, o.log⟩

/-- Runs an action and forgets whether it failed. -/
def ignoring (a : Act ε σ α) : Act ε' σ Unit := fun s =>
  let o := a s
  ⟨.ok (), o.state, o.log⟩

/-- Renames the failure of an action. -/
def mapError (f : ε → ε') (a : Act ε σ α) : Act ε' σ α := fun s =>
  let o := a s
  ⟨o.result.mapError f, o.state, o.log⟩

/-- Runs an action on the part of a state that `get` shows and `set` replaces. -/
def zoom (get : σ → τ) (set : τ → σ → σ) (a : Act ε τ α) : Act ε σ α := fun s =>
  let o := a (get s)
  ⟨o.result, set o.state s, o.log⟩

/-- Runs an action on a device that `build` makes around the present state.  The outcome and
the device come back as a value, and the state goes on as the device left it. -/
def around (build : σ → τ) (rest : τ → σ) (a : Act ε τ α) : Act ε' σ (Except ε α × τ) := fun s =>
  let o := a (build s)
  ⟨.ok (o.result, o.state), rest o.state, o.log⟩

/-- Runs an action and keeps the records that a filter admits. -/
def filtered (f : Log.Filter) (a : Act ε σ α) : Act ε σ α := fun s =>
  let o := a s
  ⟨o.result, o.state, o.log.filter fun r => f.admits r.level⟩

/-- Fails with `e` unless `p` holds. -/
def require (p : Bool) (e : ε) : Act ε σ Unit := if p then Act.pure () else Act.throw e

@[simp] theorem log_apply (level : Log.Level) (topic message : String) (s : σ) :
    (log level topic message : Act ε σ Unit) s = ⟨.ok (), s, [⟨level, topic, message⟩]⟩ := rfl

@[simp] theorem attempt_apply (a : Act ε σ α) (s : σ) :
    (a.attempt : Act ε' σ (Except ε α)) s = ⟨.ok (a s).result, (a s).state, (a s).log⟩ := rfl

@[simp] theorem zoom_apply (get : σ → τ) (set : τ → σ → σ) (a : Act ε τ α) (s : σ) :
    a.zoom get set s = ⟨(a (get s)).result, set (a (get s)).state s, (a (get s)).log⟩ := rfl

@[simp] theorem require_apply (p : Bool) (e : ε) (s : σ) :
    (require p e : Act ε σ Unit) s = ⟨if p then .ok () else .error e, s, []⟩ := by
  cases p <;> rfl

end Act

end NearField
