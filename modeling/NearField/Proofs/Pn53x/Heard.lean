import NearField.Proofs.Noted
import NearField.Proofs.Pn53x.Exchange

/-!
# What is heard of a chip

The chip layer keeps the last status that reported a failure, for its text.  A link whose
crossings are noted tells where such a status came from, and so whether it belongs to an
operation.  An action of the chip layer may be one of two things.

* It is quiet (`Quiet`) if each run is calm: either nothing crosses the link and the status stays
  (`Silent`), or something does and no failure is kept afterwards (`Clears`).  An action that always
  does the latter is a sweep (`Sweeps`).
* It is truthful (`Truthful`) if each run is silent, or a failure that is kept afterwards was heard
  during the run and is what the run failed with (`Accounts`).  An action that always does the
  latter tells (`Tells`).

An action whose commands bring no status byte is quiet, and stays so in whatever way its parts are
put together (`Act.Leads`).  What is quiet is truthful.  An exchange of any command is truthful
(`accounts_transceive`), and so is what ends at its first failure (`Truthful.bind`).
-/

namespace NearField.Pn53x

/-- What crosses a link: a command that it is given, or what comes of waiting for the reply. -/
inductive Crossing where
  | command (cmd : Bytes)
  | reply (code : UInt8) (r : Except Error Bytes)

variable {σ τ α β : Type}

/-- A link that notes what crosses it. -/
instance [ChipLink τ] : ChipLink (Noted Crossing τ) where
  send cmd t := Noted.noting (.command cmd) (ChipLink.send cmd t)
  receive capacity code t := Noted.recording (.reply code) (ChipLink.receive capacity code t)
  signal? n := ChipLink.signal? n.world
  raiseSignal n := { n with world := ChipLink.raiseSignal n.world }
  clock n := ChipLink.clock n.world
  abortCommand := Noted.passing ChipLink.abortCommand
  supportsPowerDown n := ChipLink.supportsPowerDown n.world
  close n := { n with world := ChipLink.close n.world }

/-- A status byte is among what crossed a link. -/
def Heard (crossed : List Crossing) (status : UInt8) : Prop :=
  ∃ code params, hasStatusByte code = true ∧ .reply code (.ok (status :: params)) ∈ crossed

/-- What was heard stays heard, whatever crossed before. -/
theorem Heard.append_left {crossed : List Crossing} {status : UInt8} (h : Heard crossed status)
    (before : List Crossing) : Heard (before ++ crossed) status := by
  obtain ⟨code, params, hcode, hmem⟩ := h
  exact ⟨code, params, hcode, List.mem_append_right _ hmem⟩

namespace Chip

/-- What crossed the link of a chip. -/
def crossings (c : Chip (Noted Crossing τ)) : List Crossing := c.link.notes

/-- Nothing crosses the link, and the status that is kept stays. -/
structure Silent (c c' : Chip (Noted Crossing τ)) : Prop where
  crossings : c'.crossings = c.crossings
  status : c'.lastStatus = c.lastStatus

/-- Something crosses the link. -/
def Crosses (c c' : Chip (Noted Crossing τ)) (crossed : List Crossing) : Prop :=
  crossed ≠ [] ∧ c'.crossings = c.crossings ++ crossed

/-- Something crosses the link, and no failure is kept afterwards. -/
def Clears (c c' : Chip (Noted Crossing τ)) : Prop :=
  (∃ crossed, Crosses c c' crossed) ∧ statusCode c'.lastStatus = 0

/-- Something crosses the link, and a failure that is kept afterwards was heard on the way and is
what the run failed with. -/
def Accounts (c : Chip (Noted Crossing τ)) (r : Except Error α) (c' : Chip (Noted Crossing τ)) :
    Prop :=
  ∃ crossed, Crosses c c' crossed ∧ (statusCode c'.lastStatus ≠ 0 →
    Heard crossed c'.lastStatus ∧ r = .error (statusError c'.lastStatus))

/-- A run is silent, or no failure is kept after it. -/
def Calm (c c' : Chip (Noted Crossing τ)) : Prop := Silent c c' ∨ Clears c c'

/-- What crossed before stays noted. -/
def Grows (c c' : Chip (Noted Crossing τ)) : Prop := c.crossings <+: c'.crossings

variable {c c₁ c' : Chip (Noted Crossing τ)} {r : Except Error α} {crossed : List Crossing}

theorem Silent.refl (c : Chip (Noted Crossing τ)) : Silent c c := ⟨rfl, rfl⟩

/-- Silence goes on. -/
theorem Silent.trans (h : Silent c c₁) (h' : Silent c₁ c') : Silent c c' :=
  ⟨h'.crossings.trans h.crossings, h'.status.trans h.status⟩

/-- In silence nothing is added. -/
theorem Silent.grows (h : Silent c c') : Grows c c' :=
  ⟨[], (List.append_nil _).trans h.crossings.symm⟩

/-- What crosses is added to what crossed before. -/
theorem Crosses.grows (h : Crosses c c' crossed) : Grows c c' := ⟨crossed, h.2.symm⟩

/-- What crosses later crosses behind what crossed before. -/
theorem Crosses.after (h : Crosses c₁ c' crossed) (hbefore : Grows c c₁) :
    ∃ before, Crosses c c' (before ++ crossed) := by
  obtain ⟨before, hbefore⟩ := hbefore
  refine ⟨before, fun hnil => h.1 (List.append_eq_nil_iff.mp hnil).2, ?_⟩
  rw [h.2, ← hbefore, List.append_assoc]

/-- What is silent adds nothing. -/
theorem Crosses.silent (h : Crosses c c₁ crossed) (hafter : Silent c₁ c') :
    Crosses c c' crossed :=
  ⟨h.1, hafter.crossings.trans h.2⟩

theorem Clears.grows (h : Clears c c') : Grows c c' := by
  obtain ⟨⟨crossed, h⟩, -⟩ := h
  exact h.grows

/-- A run that clears does so behind anything that crossed before. -/
theorem Clears.after (h : Clears c₁ c') (hbefore : Grows c c₁) : Clears c c' := by
  obtain ⟨⟨crossed, h⟩, hstatus⟩ := h
  obtain ⟨before, h⟩ := h.after hbefore
  exact ⟨⟨_, h⟩, hstatus⟩

/-- A status stays cleared in silence. -/
theorem Clears.silent (h : Clears c c₁) (hafter : Silent c₁ c') : Clears c c' := by
  obtain ⟨⟨crossed, h⟩, hstatus⟩ := h
  exact ⟨⟨_, h.silent hafter⟩, hafter.status ▸ hstatus⟩

/-- Where no failure is kept there is none to account for. -/
theorem Clears.accounts (h : Clears c c') (r : Except Error α) : Accounts c r c' := by
  obtain ⟨⟨crossed, h⟩, hstatus⟩ := h
  exact ⟨crossed, h, fun hno => absurd hstatus hno⟩

theorem Accounts.grows (h : Accounts c r c') : Grows c c' := by
  obtain ⟨crossed, h, -⟩ := h
  exact h.grows

/-- A run that accounts for its failure does so with anything before it. -/
theorem Accounts.after (h : Accounts c₁ r c') (hbefore : Grows c c₁) : Accounts c r c' := by
  obtain ⟨crossed, h, hfailure⟩ := h
  obtain ⟨before, h⟩ := h.after hbefore
  exact ⟨_, h, fun hstatus => ⟨(hfailure hstatus).1.append_left before, (hfailure hstatus).2⟩⟩

/-- What follows truthfully where no failure was kept accounts for its own. -/
theorem Clears.followed (h : Clears c c₁) (h' : Silent c₁ c' ∨ Accounts c₁ r c') :
    Accounts c r c' := by
  rcases h' with h' | h'
  · exact (h.silent h').accounts r
  · exact h'.after h.grows

/-- A run that accounts for its failure and succeeds keeps none. -/
theorem Accounts.clears {x : α} (h : Accounts c (.ok x : Except Error α) c') : Clears c c' := by
  obtain ⟨crossed, h, hfailure⟩ := h
  refine ⟨⟨crossed, h⟩, Decidable.byContradiction fun hstatus => ?_⟩
  cases (hfailure hstatus).2

/-- What a run would have given is of no account once it has failed. -/
theorem Accounts.of_error {e : Error} (h : Accounts c (.error e : Except Error α) c') :
    Accounts c (.error e : Except Error β) c' := by
  obtain ⟨crossed, h, hfailure⟩ := h
  refine ⟨crossed, h, fun hstatus => ⟨(hfailure hstatus).1, ?_⟩⟩
  rw [Except.error.inj (hfailure hstatus).2]

theorem Calm.grows (h : Calm c c') : Grows c c' := h.elim Silent.grows Clears.grows

/-- Calm goes on: the later of two runs decides, unless it is silent. -/
theorem Calm.trans (h : Calm c c₁) (h' : Calm c₁ c') : Calm c c' := by
  rcases h' with h' | h'
  · exact h.imp (·.trans h') (·.silent h')
  · exact .inr (h'.after h.grows)

instance : IsPreorder (Chip (Noted Crossing τ)) Silent where
  refl := .refl
  trans _ _ _ h h' := h.trans h'

instance : IsPreorder (Chip (Noted Crossing τ)) Calm where
  refl c := .inl (.refl c)
  trans _ _ _ h h' := h.trans h'

instance : IsPreorder (Chip (Noted Crossing τ)) Grows where
  refl _ := List.prefix_rfl
  trans _ _ _ h h' := h.trans h'

/-! ## Runs -/

section Runs

variable {view : σ → Chip (Noted Crossing τ)}

/-- Every run is silent at the chip that `view` shows, or accounts for its failure. -/
def Truthful (view : σ → Chip (Noted Crossing τ)) (a : Op σ α) : Prop :=
  ∀ s, Silent (view s) (view (a s).state) ∨ Accounts (view s) (a s).result (view (a s).state)

/-- Every run is calm. -/
abbrev Quiet (view : σ → Chip (Noted Crossing τ)) (a : Op σ α) : Prop :=
  Act.Leads (InvImage Calm view) (fun _ => True) a

/-- Every run crosses the link, and keeps no failure. -/
def Sweeps (view : σ → Chip (Noted Crossing τ)) (a : Op σ α) : Prop :=
  ∀ s, Clears (view s) (view (a s).state)

/-- Every run crosses the link, and accounts for its failure. -/
def Tells (view : σ → Chip (Noted Crossing τ)) (a : Op σ α) : Prop :=
  ∀ s, Accounts (view s) (a s).result (view (a s).state)

variable {a : Op σ α} {f : α → Op σ β}

/-- A run that keeps no failure is calm. -/
theorem Sweeps.quiet (ha : Sweeps view a) : Quiet view a :=
  fun s => ⟨.inr (ha s), fun _ _ => trivial⟩

theorem Quiet.truthful (ha : Quiet view a) : Truthful view a :=
  fun s => (ha s).1.imp id fun h => h.accounts _

theorem Tells.truthful (ha : Tells view a) : Truthful view a := fun s => .inr (ha s)

/-- What a truthful run leaves that fails. -/
theorem Truthful.of_fails (ha : Truthful view a) {s s' : σ} {e : Error} (h : a.Fails s e s') :
    Silent (view s) (view s') ∨ Accounts (view s) (.error e : Except Error α) (view s') :=
  h.1 ▸ h.2 ▸ ha s

theorem Truthful.grows (ha : Truthful view a) (s : σ) : Grows (view s) (view (a s).state) :=
  (ha s).elim Silent.grows Accounts.grows

/-- What follows a sweep calmly keeps no failure either. -/
theorem Sweeps.bind (ha : Sweeps view a) (hf : ∀ x, Quiet view (f x)) :
    Sweeps view (a >>= f) := by
  intro s
  rcases a.yields_or_fails s with ⟨x, h⟩ | ⟨e, h⟩
  · rw [(h.bind f).2]
    exact ((hf x _).1).elim (ha s).silent fun hrest => hrest.after (ha s).grows
  · rw [(h.bind f).2]
    exact ha s

/-- A run that accounts for its failure may go on truthfully. -/
theorem Accounts.bind {s : σ} (ha : Accounts (view s) (a s).result (view (a s).state))
    (hf : ∀ x, Truthful view (f x)) :
    Accounts (view s) ((a >>= f) s).result (view ((a >>= f) s).state) := by
  rcases a.yields_or_fails s with ⟨x, h⟩ | ⟨e, h⟩
  · rw [(h.bind f).1, (h.bind f).2]
    have hclear : Clears (view s) (view (a s).state) := (h.1 ▸ ha).clears
    exact hclear.followed (hf x _)
  · rw [(h.bind f).1, (h.bind f).2]
    exact (h.1 ▸ ha).of_error

/-- A run that tells may go on truthfully. -/
theorem Tells.bind (ha : Tells view a) (hf : ∀ x, Truthful view (f x)) : Tells view (a >>= f) :=
  fun s => (ha s).bind hf

/-- **A run that ends at its first failure is truthful** if its parts are. -/
theorem Truthful.bind (ha : Truthful view a) (hf : ∀ x, Truthful view (f x)) :
    Truthful view (a >>= f) := by
  intro s
  rcases ha s with hfirst | hfirst
  · rcases a.yields_or_fails s with ⟨x, h⟩ | ⟨e, h⟩
    · rw [(h.bind f).1, (h.bind f).2]
      exact (hf x _).imp (hfirst.trans ·) (·.after hfirst.grows)
    · rw [(h.bind f).2]
      exact .inl hfirst
  · exact .inr (hfirst.bind hf)

/-- Whatever is kept of an attempt, a sweep behind it leaves no failure. -/
theorem truthful_attempt_bind {f : Except Error α → Op σ β}
    (ha : ∀ s, Grows (view s) (view (a s).state)) (hf : ∀ r, Sweeps view (f r)) :
    Truthful view (a.attempt >>= f) := by
  intro s
  rw [(Act.attempt_bind a f s).1, (Act.attempt_bind a f s).2]
  exact .inr (((hf _ _).after (ha s)).accounts _)

theorem Truthful.get_bind {f : σ → Op σ α} (hf : ∀ s, Truthful view (f s)) :
    Truthful view (get >>= f) :=
  fun s => hf s s

theorem Truthful.ite {p : Prop} [Decidable p] {a b : Op σ α} (ha : Truthful view a)
    (hb : Truthful view b) : Truthful view (if p then a else b) := by
  by_cases h : p
  · rw [if_pos h]
    exact ha
  · rw [if_neg h]
    exact hb

/-- A part of a state that shows the same chip. -/
theorem Truthful.zoom {ρ : Type} {get : ρ → σ} {set : σ → ρ → ρ}
    {view' : ρ → Chip (Noted Crossing τ)} (ha : Truthful view a)
    (hget : ∀ r, view (get r) = view' r) (hset : ∀ s r, view' (set s r) = view s) :
    Truthful view' (a.zoom get set) := by
  intro r
  rw [Act.zoom_apply, hset, ← hget]
  exact ha (get r)

theorem truthful_throw (e : Error) : Truthful view (throw e : Op σ α) := fun _ => .inl (.refl _)

theorem truthful_pure (x : α) : Truthful view (pure x : Op σ α) := fun _ => .inl (.refl _)

theorem truthful_ofExcept (r : Except Error α) : Truthful view (Act.ofExcept r : Op σ α) := by
  intro s
  rw [Act.ofExcept_apply]
  exact .inl (.refl _)

theorem truthful_log (level : Log.Level) (topic message : String) :
    Truthful view (Act.log level topic message : Op σ Unit) := fun _ => .inl (.refl _)

/-- A step of the host is truthful where it is silent. -/
theorem truthful_modify {f : σ → σ} (h : ∀ s, Silent (view s) (view (f s))) :
    Truthful view (modify f : Op σ PUnit) := fun s => .inl (h s)

end Runs

/-! ## Exchanges -/

/-- A status of zero reports no failure. -/
theorem statusCode_zero : statusCode 0 = 0 := by decide

/-- A status without a code for a failure is accepted, and nothing changes. -/
theorem yields_checkStatus {status : UInt8} (h : statusCode status = 0) (params : Bytes)
    (c : Chip τ) : (checkStatus (status :: params)).Yields c () c := by
  rw [checkStatus, if_neg (Decidable.not_not.mpr h)]
  exact Act.yields_pure.mpr ⟨rfl, rfl⟩

/-- A status that reports a failure is kept; the target is forgotten if it is reported to be
released. -/
theorem fails_checkStatus {status : UInt8} (h : statusCode status ≠ 0) (params : Bytes)
    (c : Chip τ) : ∃ c', (checkStatus (status :: params)).Fails c (statusError status) c' ∧
      c'.lastStatus = status ∧
        c'.current? = if statusError status = .targetReleased then none else c.current? := by
  rw [checkStatus, if_pos h]
  by_cases hreleased : statusError status = .targetReleased
  · rw [if_pos hreleased, if_pos hreleased]
    exact ⟨_, ⟨rfl, rfl⟩, rfl, rfl⟩
  · rw [if_neg hreleased, if_neg hreleased]
    exact ⟨_, ⟨rfl, rfl⟩, rfl, rfl⟩

/-- Accepting a reply leaves the status as it is, or fails with that of the reply and keeps it. -/
theorem accept_status (code : UInt8) (reply : Bytes) (c : Chip τ) :
    (accept code reply c).state.lastStatus = c.lastStatus ∨
      ∃ status params, reply = status :: params ∧ hasStatusByte code = true ∧
        (accept code reply c).result = .error (statusError status) ∧
          (accept code reply c).state.lastStatus = status := by
  rw [accept, (Act.log_bind _ _ _ _ _).1, (Act.log_bind _ _ _ _ _).2]
  by_cases hcode : hasStatusByte code = true
  · rw [if_pos hcode]
    cases reply with
    | nil => exact .inl rfl
    | cons status params =>
        by_cases hok : statusCode status = 0
        · exact .inl (congrArg lastStatus ((yields_checkStatus hok params c).bind _).2)
        · obtain ⟨c', hfails, hstatus, -⟩ := fails_checkStatus hok params c
          obtain ⟨hresult, hstate⟩ := hfails.bind _
          refine .inr ⟨status, params, rfl, hcode, hresult, ?_⟩
          exact (congrArg lastStatus hstate).trans hstatus
  · rw [if_neg hcode]
    exact .inl rfl

variable [ChipLink τ]

/-- What carrying a command over a link puts into its notes: the command, and then what came of
waiting for the reply, if the command was taken. -/
theorem notes_carry (code : UInt8) (params : Bytes) (t : Timeout) (n : Noted Crossing τ) :
    let o := carry code params t n
    ((∃ e, o.result = .error e) ∧ o.state.notes = n.notes ++ [.command (code :: params)]) ∨
      o.state.notes = n.notes ++ [.command (code :: params), .reply code o.result] := by
  let send : Op (Noted Crossing τ) Unit := ChipLink.send (code :: params) t
  have hsent : (send n).state.notes = n.notes ++ [.command (code :: params)] := rfl
  rcases send.yields_or_fails n with ⟨_, h⟩ | ⟨e, h⟩
  · let receive : Op τ Bytes := ChipLink.receive replyCapacity code t
    obtain ⟨hresult, hstate⟩ := Noted.recording_run (.reply code) receive (send n).state
    have hcarried : (carry code params t n).result = (receive (send n).state.world).result :=
      (h.bind _).1.trans hresult
    refine .inr (((congrArg Noted.notes (h.bind _).2).trans (congrArg Noted.notes hstate)).trans ?_)
    rw [hcarried, hsent, List.append_assoc]
    rfl
  · exact .inl ⟨⟨e, (h.bind _).1⟩, (congrArg Noted.notes (h.bind _).2).trans hsent⟩

/-- What crosses the link in an exchange, and what it ends in. -/
theorem crossings_transceive (code : UInt8) (params : Bytes) (t : Timeout)
    (c : Chip (Noted Crossing τ)) :
    let o := transceive (code :: params) t c
    ((∃ e, o.result = .error e) ∧
        o.state.crossings = c.crossings ++ [.command (code :: params)]) ∨
      ∃ r, o.state.crossings = c.crossings ++ [.command (code :: params), .reply code r] ∧
        o.result = r.bind (answer code) := by
  intro o
  have hlink : o.state.crossings = (carry code params t c.link).state.notes :=
    congrArg Noted.notes (link_transceive code params t c)
  rcases notes_carry code params t c.link with ⟨⟨e, he⟩, hnotes⟩ | hnotes
  · exact .inl ⟨⟨e, (transceive_of_fails ⟨he, rfl⟩).1⟩, hlink.trans hnotes⟩
  · refine .inr ⟨_, hlink.trans hnotes, ?_⟩
    rcases (carry code params t).yields_or_fails c.link with ⟨reply, h⟩ | ⟨e, h⟩
    · rw [h.1]
      exact (transceive_of_carry h).1
    · rw [h.1]
      exact (transceive_of_fails h).1

/-- A reply that is accepted is among what crossed the link. -/
theorem crossed_carry (code : UInt8) (params : Bytes) (t : Timeout) (n : Noted Crossing τ) :
    ∃ crossed, crossed ≠ [] ∧
      (carry code params t n).state.notes = n.notes ++ crossed ∧
        ∀ reply, (carry code params t n).result = .ok reply →
          .reply code (.ok reply) ∈ crossed := by
  rcases notes_carry code params t n with ⟨⟨e, he⟩, hnotes⟩ | hnotes
  · refine ⟨_, List.cons_ne_nil _ _, hnotes, fun reply hreply => ?_⟩
    cases he.symm.trans hreply
  · refine ⟨_, List.cons_ne_nil _ _, hnotes, fun reply hreply => ?_⟩
    rw [hreply]
    exact List.mem_cons_of_mem _ (List.mem_singleton_self _)

/-- An exchange crosses the link, and a failure that is kept afterwards came with its reply, and is
what it failed with. -/
theorem status_transceive (code : UInt8) (params : Bytes) (t : Timeout)
    (c : Chip (Noted Crossing τ)) :
    let o := transceive (code :: params) t c
    ∃ crossed, Crosses c o.state crossed ∧ (statusCode o.state.lastStatus ≠ 0 →
      hasStatusByte code = true ∧ Heard crossed o.state.lastStatus ∧
        o.result = .error (statusError o.state.lastStatus)) := by
  obtain ⟨crossed, hne, hnotes, hreply⟩ := crossed_carry code params t c.link
  have hcrosses := (congrArg Noted.notes (link_transceive code params t c)).trans hnotes
  refine ⟨crossed, ⟨hne, hcrosses⟩, ?_⟩
  rw [transceive_eq, (Act.modify_bind _ _ _).1, (Act.modify_bind _ _ _).2,
    (Act.log_bind _ _ _ _ _).1, (Act.log_bind _ _ _ _ _).2]
  -- the status is zero when the exchange begins, so only a reply can leave another
  rcases (carry code params t).yields_or_fails c.link with ⟨reply, h⟩ | ⟨e, h⟩
  · have hcarry : (onLink (carry code params t)).Yields { c with lastStatus := 0 } reply _ :=
      Act.yields_zoom.mpr ⟨_, h, rfl⟩
    rw [(hcarry.bind _).1, (hcarry.bind _).2]
    intro hstatus
    rcases accept_status code reply _ with hsame | ⟨status, rest, hfirst, hcode, hresult, hlast⟩
    · rw [hsame] at hstatus
      exact absurd statusCode_zero hstatus
    · rw [hresult, hlast]
      exact ⟨hcode, ⟨code, rest, hcode, hfirst ▸ hreply reply h.1⟩, rfl⟩
  · have hcarry : (onLink (carry code params t)).Fails { c with lastStatus := 0 } e _ :=
      Act.fails_zoom.mpr ⟨_, h, rfl⟩
    rw [(hcarry.bind _).1, (hcarry.bind _).2]
    exact fun hstatus => absurd statusCode_zero hstatus

/-- **An exchange accounts for its failure**: a status that is kept came with the reply, and is
what the exchange failed with. -/
theorem accounts_transceive (code : UInt8) (params : Bytes) (t : Timeout)
    (c : Chip (Noted Crossing τ)) :
    Accounts c (transceive (code :: params) t c).result
      (transceive (code :: params) t c).state := by
  obtain ⟨crossed, hcrosses, hfailure⟩ := status_transceive code params t c
  exact ⟨crossed, hcrosses, fun hstatus => (hfailure hstatus).2⟩

/-- A command whose reply has no status byte leaves no failure. -/
theorem clears_transceive {code : UInt8} (hcode : hasStatusByte code = false) (params : Bytes)
    (t : Timeout) (c : Chip (Noted Crossing τ)) :
    Clears c (transceive (code :: params) t c).state := by
  obtain ⟨crossed, hcrosses, hfailure⟩ := status_transceive code params t c
  refine ⟨⟨crossed, hcrosses⟩, Decidable.byContradiction fun hstatus => ?_⟩
  rw [hcode] at hfailure
  cases (hfailure hstatus).1

end Chip

end NearField.Pn53x
