import NearField.Checked
import NearField.Proofs.Act
import NearField.Target

/-!
# Checked accesses

A `Checked` program says of each slice and each element that it takes from a buffer which bytes it
touches, and stops with `Halt.outOfRange` where the buffer does not have them.  It says so in
front of what it makes of the bytes, so a program that checks its accesses can be held against the
same program without the checks.

`Passes R a b` says that the checked program `a` ends from related states as `b` does.  Then no
access of `a` is out of range, since `b` can only fail with an error of the library
(`Passes.inRange`).  Where an access or a count can be out of range, `Agrees a b s` says that `a`
ends from `s` as `b` does unless it stops.  Each access comes with the statement that it is passed
by a buffer that is long enough (`slice_eq`, `index_eq`, …), which is used to run past it.
-/

namespace NearField

/-- A vector holds the bytes that it is made of. -/
theorem vector?_eq_some {n : Nat} {bs : Bytes} {v : Vector UInt8 n} :
    vector? n bs = some v ↔ ∃ h : bs.length = n, ⟨bs.toArray, by simpa using h⟩ = v := by
  by_cases h : bs.length = n <;> simp [vector?, h]

/-- A number below 2^32 is one of 32 bits. -/
theorem exists_word {n : Nat} (h : n < UInt32.size) : ∃ w : UInt32, w.toNat = n :=
  ⟨UInt32.ofNat n, UInt32.toNat_ofNat_of_lt h⟩

/-- A number is the one that its word holds. -/
theorem word?_eq_some_iff {n : Nat} {w : UInt32} : word? n = some w ↔ w.toNat = n := by
  unfold word?
  constructor
  · intro h
    by_cases hn : n < UInt32.size
    · rw [if_pos hn] at h
      exact Option.some.inj h ▸ UInt32.toNat_ofNat_of_lt hn
    · rw [if_neg hn] at h
      cases h
  · rintro rfl
    rw [if_pos w.toNat_lt_size, UInt32.ofNat_toNat]

namespace Checked

variable {σ τ α β : Type}

/-! ## Accesses -/

/-- The bytes of a buffer from one place to before another. -/
def slice (bs : Bytes) (start stop : Nat) : Checked σ Bytes := do
  Act.require (start ≤ stop && stop ≤ bs.length) .outOfRange
  return (bs.take stop).drop start

/-- One byte of a buffer. -/
def index (bs : Bytes) (i : Nat) : Checked σ UInt8 := Act.ofOption .outOfRange bs[i]?

/-- The first `n` bytes of a buffer, taken one by one. -/
def elements (n : Nat) (bs : Bytes) : Checked σ (Vector UInt8 n) :=
  Vector.ofFnM fun i => index bs i

/-- A copy of a buffer into one of `n` bytes, which have to be as many. -/
def copy (n : Nat) (bs : Bytes) : Checked σ (Vector UInt8 n) :=
  Act.ofOption .outOfRange (vector? n bs)

/-- The first `n` bytes of a buffer with some room, whatever they hold. -/
def front (room n : Nat) : Checked σ Unit := Act.require (n ≤ room) .outOfRange

/-- A count less another one, which has to be no larger. -/
def minus (m n : Nat) : Checked σ Nat := do
  Act.require (n ≤ m) .outOfRange
  return m - n

/-- A slice within the bytes is not refused. -/
theorem slice_eq {bs : Bytes} {start stop : Nat} (h : start ≤ stop) (h' : stop ≤ bs.length) :
    (slice bs start stop : Checked σ Bytes) = pure ((bs.take stop).drop start) := by
  have hrange : (decide (start ≤ stop) && decide (stop ≤ bs.length)) = true := by simp [h, h']
  rw [slice, hrange]
  rfl

/-- A slice up to the end. -/
theorem slice_length {bs : Bytes} {start : Nat} (h : start ≤ bs.length) :
    (slice bs start bs.length : Checked σ Bytes) = pure (bs.drop start) := by
  rw [slice_eq h (Nat.le_refl _), List.take_length]

/-- An element that is there is not refused. -/
theorem index_eq {bs : Bytes} {i : Nat} {b : UInt8} (h : bs[i]? = some b) :
    (index bs i : Checked σ UInt8) = pure b := by
  rw [index, h]
  rfl

theorem index_lt {bs : Bytes} {i : Nat} (h : i < bs.length) :
    (index bs i : Checked σ UInt8) = pure bs[i] :=
  index_eq (List.getElem?_eq_getElem h)

/-- Bytes fill an array of their number. -/
theorem copy_eq {n : Nat} {bs : Bytes} {v : Vector UInt8 n} (h : vector? n bs = some v) :
    (copy n bs : Checked σ (Vector UInt8 n)) = pure v := by
  rw [copy, h]
  rfl

/-- Bytes taken one by one make up an array of their number. -/
theorem elements_eq {n : Nat} {bs : Bytes} {v : Vector UInt8 n} (h : vector? n bs = some v) :
    (elements n bs : Checked σ (Vector UInt8 n)) = pure v := by
  obtain ⟨hlen, rfl⟩ := vector?_eq_some.mp h
  subst hlen
  have hindex (i : Fin bs.length) : (index bs i : Checked σ UInt8) = pure (bs.get i) :=
    index_lt i.isLt
  simp only [elements, hindex, Vector.ofFnM_pure]
  congr 1
  ext i hi
  simp

/-- The front of a buffer with room for it is not refused. -/
theorem front_eq {room n : Nat} (h : n ≤ room) : (front room n : Checked σ Unit) = pure () := by
  rw [front, decide_eq_true h]
  rfl

/-- A difference that is not negative is not refused. -/
theorem minus_eq {m n : Nat} (h : n ≤ m) : (minus m n : Checked σ Nat) = pure (m - n) := by
  rw [minus, decide_eq_true h]
  rfl

/-! ## Programs around accesses -/

/-- From related states the checked program ends as the other does, in related states. -/
def Passes (R : σ → τ → Prop) (a : Checked σ α) (b : Op τ α) : Prop :=
  Act.Simulates R a (lift b)

/-- Unless it stops out of range, a checked program ends as the other does. -/
def Agrees (a : Checked σ α) (b : Op σ α) (s : σ) : Prop :=
  (a s).result ≠ .error .outOfRange →
    (a s).result = (b s).result.mapError .error ∧ (a s).state = (b s).state

variable {R : σ → τ → Prop}

/-- A program without accesses of its own ends as it does, and its failures are no stops. -/
theorem lift_run (a : Op σ α) (s : σ) :
    (lift a s).result = (a s).result.mapError .error ∧ (lift a s).state = (a s).state :=
  ⟨rfl, rfl⟩

/-- No error of the library is a stop out of range. -/
theorem mapError_inRange (r : Except Error α) : r.mapError Halt.error ≠ .error .outOfRange := by
  cases r <;> simp

/-- Failures stay apart when they are told from stops. -/
theorem mapError_inj {r r' : Except Error α} (h : r.mapError Halt.error = r'.mapError .error) :
    r = r' := by
  cases r <;> cases r' <;> simp_all

/-- A program without accesses does not stop out of range. -/
theorem lift_inRange (a : Op σ α) (s : σ) : (lift a s).result ≠ .error .outOfRange :=
  mapError_inRange (a s).result

theorem agrees_lift (a : Op σ α) (s : σ) : (lift a).Agrees a s := fun _ => lift_run a s

/-- A program that stops out of range agrees with any other. -/
theorem agrees_of_stops {a : Checked σ α} {b : Op σ α} {s s' : σ} (h : a.Fails s .outOfRange s') :
    a.Agrees b s :=
  fun hno => absurd h.1 hno

/-- Programs without accesses follow each other as before. -/
theorem lift_bind (a : Op σ α) (f : α → Op σ β) :
    lift (a >>= f) = lift a >>= fun x => lift (f x) := by
  funext s
  simp only [lift, Act.mapError, Act.bind_apply]
  rcases a s with ⟨_ | x, s', log⟩ <;> rfl

theorem gives_lift {P : α → Prop} {a : Op σ α} (h : Act.Gives P a) : Act.Gives P (lift a) :=
  fun s x hx => h s x (Act.mapError_eq_ok.mp hx)

/-- **No access is out of range** in a program that runs as one without accesses. -/
theorem Passes.inRange {a : Checked σ α} {b : Op τ α} (h : Passes R a b) {s : σ} {t : τ}
    (hst : R s t) : (a s).result ≠ .error .outOfRange := by
  rw [(h s t hst).1]
  exact lift_inRange b t

/-- A program without accesses passes if it runs alike on related states. -/
theorem passes_lift {a : Op σ α} {b : Op τ α} (h : Act.Simulates R a b) : Passes R (lift a) b := by
  intro s t hst
  obtain ⟨hresult, hstate⟩ := h s t hst
  exact ⟨congrArg (Except.mapError Halt.error) hresult, hstate⟩

/-- A program without accesses passes beside itself. -/
theorem passes_refl (a : Op σ α) : Passes Eq (lift a) a := passes_lift (Act.simulates_refl a)

theorem passes_pure (x : α) : Passes R (pure x : Checked σ α) (pure x) := Act.simulates_pure x

/-- A failure that is meant is no stop. -/
theorem passes_throw (e : Error) : Passes R (throw (.error e) : Checked σ α) (throw e) :=
  Act.simulates_throw (Halt.error e)

/-- Both leave out what stands behind an error. -/
theorem passes_throw_bind (e : Error) (f : α → Checked σ β) (g : α → Op τ β) :
    Passes R (throw (.error e) >>= f) (throw e >>= g) :=
  fun _ _ h => ⟨rfl, h⟩

theorem passes_log (level : Log.Level) (topic message : String) :
    Passes R (Act.log level topic message) (Act.log level topic message) :=
  Act.simulates_log level topic message

theorem passes_ofExcept (r : Except Error α) :
    Passes R (Act.ofExcept (r.mapError .error) : Checked σ α) (Act.ofExcept r) := by
  cases r with
  | ok x => exact passes_pure x
  | error e => exact passes_throw e

theorem passes_ofOption (e : Error) (x? : Option α) :
    Passes R (lift (Act.ofOption e x?) : Checked σ α) (Act.ofOption e x?) :=
  passes_lift (Act.simulates_ofOption e x?)

/-- A condition that is meant is no stop. -/
theorem passes_require (p : Bool) (e : Error) :
    Passes R (lift (Act.require p e) : Checked σ Unit) (Act.require p e) :=
  passes_lift (Act.simulates_require p e)

/-- Both go on alike, on whatever the program without accesses gives. -/
theorem Passes.bind_gives {P : α → Prop} {a : Checked σ α} {b : Op τ α} {f : α → Checked σ β}
    {g : α → Op τ β} (hab : Passes R a b) (hb : Act.Gives P b)
    (hfg : ∀ x, P x → Passes R (f x) (g x)) : Passes R (a >>= f) (b >>= g) := by
  rw [Passes, lift_bind]
  exact Act.Simulates.bind_gives hab (gives_lift hb) hfg

/-- Programs that pass may follow each other. -/
theorem Passes.bind {a : Checked σ α} {b : Op τ α} {f : α → Checked σ β} {g : α → Op τ β}
    (hab : Passes R a b) (hfg : ∀ x, Passes R (f x) (g x)) : Passes R (a >>= f) (b >>= g) :=
  hab.bind_gives (P := fun _ => True) (fun _ _ _ => trivial) fun x _ => hfg x

/-- What a program reads of its state may decide how it goes on. -/
theorem Passes.get_bind {f : σ → Checked σ β} {g : τ → Op τ β}
    (h : ∀ s t, R s t → Passes R (f s) (g t)) : Passes R (get >>= f) (get >>= g) :=
  fun s t hst => h s t hst s t hst

/-- Both branches of a condition pass. -/
theorem Passes.ite {p : Prop} [Decidable p] {a a' : Checked σ α} {b b' : Op τ α}
    (h : Passes R a b) (h' : Passes R a' b') :
    Passes R (if p then a else a') (if p then b else b') := by
  by_cases hp : p
  · rw [if_pos hp, if_pos hp]
    exact h
  · rw [if_neg hp, if_neg hp]
    exact h'

/-- A step that is taken or left out by a test. -/
theorem Passes.optionally {p : Prop} [Decidable p] {a : Checked σ Unit} {b : Op τ Unit}
    {f : Unit → Checked σ β} {g : Unit → Op τ β} (hab : Passes R a b)
    (hfg : Passes R (f ()) (g ())) :
    Passes R (if p then a >>= f else f ()) (if p then b >>= g else g ()) :=
  .ite (hab.bind fun _ => hfg) hfg

/-- Nothing takes back what was out of range. -/
theorem fails_attempt {a : Checked σ α} {s s' : σ} (h : a.Fails s .outOfRange s') :
    (attempt a).Fails s .outOfRange s' := by
  obtain ⟨hresult, hstate⟩ := h
  rw [Act.Fails, attempt]
  revert hresult hstate
  rcases a s with ⟨r, s₁, log⟩
  rintro rfl rfl
  exact ⟨rfl, rfl⟩

/-- A checked program stops out of range, or ends as an operation of the library can. -/
theorem stops_or_ends (a : Checked σ α) (s : σ) :
    (a s).result = .error .outOfRange ∨
      ∃ r : Except Error α, (a s).result = r.mapError Halt.error := by
  rcases h : (a s).result with (e | _) | x
  · exact .inr ⟨.error e, rfl⟩
  · exact .inl rfl
  · exact .inr ⟨.ok x, rfl⟩

/-- A failure that is caught is one that is meant. -/
theorem yields_attempt {a : Checked σ α} {s : σ} {r : Except Error α}
    (h : (a s).result = r.mapError .error) : (attempt a).Yields s r (a s).state := by
  rw [Act.Yields, attempt]
  revert h
  rcases a s with ⟨result, s', log⟩
  rintro rfl
  cases r <;> exact ⟨rfl, rfl⟩

/-- A program that passes may be attempted: it does not stop, so there is nothing to let through. -/
theorem Passes.attempt {a : Checked σ α} {b : Op τ α} (h : Passes R a b) :
    Passes R (attempt a) b.attempt := by
  intro s t hst
  obtain ⟨hresult, hstate⟩ := h s t hst
  rw [(lift_run b t).1] at hresult
  rw [(lift_run b t).2] at hstate
  unfold Checked.attempt
  revert hresult hstate
  rcases a s with ⟨r, s', log⟩
  intro hresult hstate
  change r = _ at hresult
  subst hresult
  rw [(lift_run _ t).1, (lift_run _ t).2]
  change _ = Except.mapError .error (.ok (b t).result) ∧ R _ (b t).state
  cases (b t).result <;> exact ⟨rfl, hstate⟩

end Checked

end NearField
