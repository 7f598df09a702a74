import NearField.Proofs.Context.Opening
import NearField.Proofs.Handling

/-!
# The readers that a context hands on

A context can number the readers that its drivers hand out (`Context.numbered`).  What it does is
followed by `Minds takes f gives`: an action runs as the plain one does, it takes over the readers
in `takes`, and it hands on those that `gives` finds in its result, none if it fails.  Opening hands
on the reader of the device that it ends with (`minds_openReader`), and listing none at all
(`minds_list`); what is claimed on the way beyond that is closed.
-/

namespace NearField

open Handling

variable {ω δ : Type}

/-- A claim without the number of its reader. -/
def Claim.unnumbered (c : Claim (Numbered δ)) : Claim δ := ⟨c.name, c.handle.handle⟩

/-- A device without the number of its reader. -/
def Device.unnumbered (d : Device (Numbered δ)) : Device δ := d.map Numbered.handle

/-- The reader of a device. -/
def Device.number (d : Device (Numbered δ)) : Nat := d.backend.number

/-- A driver that numbers the readers that it hands out, and notes each of them. -/
def Driver.numbered (d : Driver ω δ) : Driver (Noted Handling ω) (Numbered δ) where
  name := d.name
  scanType := d.scanType
  scan room := Noted.passing (d.scan room)
  claim c := do
    let claimed ← Noted.passing (d.claim c)
    let number := (← get).notes.length
    modify (Noted.note (.handed number))
    return ⟨claimed.name, number, claimed.handle⟩

namespace Context

/-- A context that numbers the readers that its drivers hand out. -/
def numbered (ctx : Context ω δ) : Context (Noted Handling ω) (Numbered δ) where
  registry := ⟨ctx.registry.drivers.map Driver.numbered⟩
  autoscan := ctx.autoscan
  intrusiveScan := ctx.intrusiveScan
  userDevices := ctx.userDevices

/-! ## Taking over and handing on -/

section Minds

variable {ε ε' α α' β β' : Type}

/-- The readers that an action hands on, by how it ended. -/
def inHand (gives : α → List Nat) : Except ε α → List Nat
  | .ok x => gives x
  | .error _ => []

/-- The action `a` runs as `b` does, with results that `f` shows.  Whoever holds other readers, it
takes over those in `takes`, hands on those that `gives` finds in its result, and keeps the notes in
order. -/
def Minds (takes : List Nat) (f : α → β) (gives : α → List Nat) (a : Act ε (Noted Handling ω) α)
    (b : Act ε ω β) : Prop :=
  ∀ held n, Kept (takes ++ held) n.notes →
    (a n).result.map f = (b n.world).result ∧ (a n).state.world = (b n.world).state ∧
      Kept (inHand gives (a n).result ++ held) (a n).state.notes

/-- An action that has nothing to do with readers in anybody's hands. -/
abbrev MindsNone (a : Act ε (Noted Handling ω) α) (b : Act ε ω α) : Prop :=
  Minds [] id (fun _ => []) a b

variable {takes : List Nat} {f : α → α'} {g : β → β'} {gives : α → List Nat}
  {gives' : β → List Nat}

/-- A result hands on what was taken over. -/
theorem minds_pure {x : α} {y : α'} (hy : f x = y) (hx : gives x = takes) :
    Minds takes f gives (pure x : Act ε (Noted Handling ω) α) (pure y) := by
  subst hy hx
  exact fun held n h => ⟨rfl, rfl, h⟩

/-- A failure hands on nothing, so nothing may have been taken over. -/
theorem minds_throw (e : ε) :
    Minds [] f gives (throw e : Act ε (Noted Handling ω) α) (throw e) :=
  fun _ _ h => ⟨rfl, rfl, h⟩

theorem minds_log (takes : List Nat) (level : Log.Level) (topic message : String) :
    Minds takes id (fun _ => takes) (Act.log level topic message : Act ε (Noted Handling ω) Unit)
      (Act.log level topic message) :=
  fun _ _ h => ⟨rfl, rfl, h⟩

/-- What the first of two actions hands on, the second takes over. -/
theorem Minds.bind {a : Act ε (Noted Handling ω) α} {b : Act ε ω α'}
    {k : α → Act ε (Noted Handling ω) β} {k' : α' → Act ε ω β'} (hab : Minds takes f gives a b)
    (hk : ∀ x, Minds (gives x) g gives' (k x) (k' (f x))) :
    Minds takes g gives' (a >>= k) (b >>= k') := by
  intro held n h
  -- what the first hands on is in its result, which the second begins with
  obtain ⟨hresult, hstate, hkept⟩ := hab held n h
  rcases a.yields_or_fails n with ⟨x, ha⟩ | ⟨e, ha⟩
  · rw [ha.1] at hresult hkept
    have hb : b.Yields n.world (f x) (b n.world).state := ⟨hresult.symm, rfl⟩
    rw [(ha.bind k).1, (ha.bind k).2, (hb.bind k').1, (hb.bind k').2, ← hstate]
    exact hk x held _ hkept
  · rw [ha.1] at hresult hkept
    have hb : b.Fails n.world e (b n.world).state := ⟨hresult.symm, rfl⟩
    rw [(ha.bind k).1, (ha.bind k).2, (hb.bind k').1, (hb.bind k').2]
    exact ⟨rfl, hstate, hkept⟩

/-- An attempt hands on what the action does, if that succeeds. -/
theorem Minds.attempt {a : Act ε (Noted Handling ω) α} {b : Act ε ω α'}
    (hab : Minds takes f gives a b) :
    Minds takes (Except.map f) (inHand gives) (a.attempt : Act ε' _ _) b.attempt := by
  intro held n h
  obtain ⟨hresult, hstate, hkept⟩ := hab held n h
  exact ⟨congrArg Except.ok hresult, hstate, hkept⟩

theorem Minds.ite {p : Prop} [Decidable p] {a a' : Act ε (Noted Handling ω) α}
    {b b' : Act ε ω α'} (h : Minds takes f gives a b) (h' : Minds takes f gives a' b') :
    Minds takes f gives (if p then a else a') (if p then b else b') := by
  by_cases hp : p
  · rw [if_pos hp, if_pos hp]
    exact h
  · rw [if_neg hp, if_neg hp]
    exact h'

/-- An action of the world itself hands on nothing. -/
theorem minds_passing (a : Act ε ω α) : MindsNone (Noted.passing a) a := by
  intro held n h
  refine ⟨congrFun Except.map_id (a n.world).result, rfl, ?_⟩
  change Kept (inHand _ (a n.world).result ++ held) n.notes
  cases (a n.world).result <;> exact h

end Minds

/-! ## Opening -/

/-- The reader of a device. -/
def readerOf (d : Device (Numbered δ)) : List Nat := [d.number]

/-- An action that ends with a device, of which it hands on the reader. -/
abbrev MindsDevice (takes : List Nat) (a : Op (Noted Handling ω) (Device (Numbered δ)))
    (b : Op ω (Device δ)) : Prop :=
  Minds takes Device.unnumbered readerOf a b

/-- A claim that succeeds hands on the reader that it has just numbered. -/
theorem minds_claim (d : Driver ω δ) (c : ConnString) :
    Minds [] Claim.unnumbered (fun claimed => [claimed.handle.number]) (d.numbered.claim c)
      (d.claim c) := by
  intro held n h
  change Kept held n.notes at h
  rcases (d.claim c).yields_or_fails n.world with ⟨claimed, hclaim⟩ | ⟨e, hclaim⟩
  · have hpassing : (Noted.passing (d.claim c)).Yields n claimed ⟨_, n.notes⟩ := ⟨hclaim.1, rfl⟩
    unfold Driver.numbered
    rw [(hpassing.bind _).1, (hpassing.bind _).2, hclaim.1]
    exact ⟨rfl, rfl, h.hand⟩
  · have hpassing : (Noted.passing (d.claim c)).Fails n e ⟨_, n.notes⟩ := ⟨hclaim.1, rfl⟩
    unfold Driver.numbered
    rw [(hpassing.bind _).1, (hpassing.bind _).2, hclaim.1]
    exact ⟨rfl, rfl, h⟩

/-- The drivers that do not claim a name hand on nothing. -/
theorem minds_claimWith (c : ConnString) (ds : List (Driver ω δ)) :
    MindsDevice [] (claimWith c (ds.map Driver.numbered)) (claimWith c ds) := by
  induction ds with
  | nil => exact (minds_log [] _ _ _).bind fun _ => minds_throw _
  | cons d ds ih =>
      refine .ite ih ((minds_claim d c).attempt.bind fun r => ?_)
      cases r with
      | ok claimed => exact minds_pure rfl rfl
      | error e => exact .ite ih ((minds_log [] _ _ _).bind fun _ => minds_throw e)

/-- A declared name is given without regard to the reader. -/
theorem unnumbered_rename (ctx : Context ω δ) (d : Device (Numbered δ)) :
    (ctx.numbered.rename d).unnumbered = ctx.rename d.unnumbered ∧
      (ctx.numbered.rename d).backend = d.backend := by
  rw [rename_eq, rename_eq]
  exact ⟨rfl, rfl⟩

variable [Reader (ω × δ)]

/-- A device that is closed is taken over, and not handed on. -/
theorem minds_closeDevice {ε : Type} (d : Device (Numbered δ)) :
    Minds (readerOf d) id (fun _ => []) (closeDevice d : Act ε (Noted Handling ω) Unit)
      (closeDevice d.unnumbered) :=
  fun _ _ h => ⟨rfl, rfl, h.close⟩

/-- A device that cannot be kept is closed, and any other handed on with its name. -/
theorem minds_finish (ctx : Context ω δ) (d : Device (Numbered δ)) :
    MindsDevice (readerOf d) (finish ctx.numbered d) (finish ctx d.unnumbered) := by
  obtain ⟨hrename, hbackend⟩ := unnumbered_rename ctx d
  unfold finish
  rw [← hrename]
  have hreader : readerOf d = readerOf (ctx.numbered.rename d) := by
    rw [readerOf, readerOf, Device.number, Device.number, hbackend]
  rw [hreader]
  exact .ite ((minds_log _ _ _ _).bind fun _ => (minds_closeDevice _).bind fun _ => minds_throw _)
    ((minds_log _ _ _ _).bind fun _ => minds_pure rfl rfl)

/-- Opening by name hands on the reader of the driver that claims it. -/
theorem minds_openNamed (ctx : Context ω δ) (c : ConnString) :
    MindsDevice [] (openNamed ctx.numbered c) (openNamed ctx c) :=
  (minds_claimWith c ctx.registry.drivers).bind fun d => minds_finish ctx d

/-! ## Listing -/

/-- The reader that a probe opens is closed. -/
theorem minds_isAvailable (ctx : Context ω δ) (u : UserDevice) :
    MindsNone (isAvailable ctx.numbered u) (isAvailable ctx u) := by
  have hquiet : MindsDevice [] ((openNamed ctx.numbered u.connString).filtered .off)
      ((openNamed ctx u.connString).filtered .off) := minds_openNamed ctx u.connString
  refine hquiet.attempt.bind fun r => ?_
  cases r with
  | error e => exact minds_pure rfl rfl
  | ok d =>
      exact (minds_closeDevice d).bind fun _ =>
        (minds_log [] _ _ _).bind fun _ => minds_pure rfl rfl

/-- Probing declared readers leaves none of them open. -/
theorem minds_declared (ctx : Context ω δ) (room : Nat) (us : List UserDevice) :
    MindsNone (declared ctx.numbered room us) (declared ctx room us) := by
  induction us generalizing room with
  | nil => cases room <;> exact minds_pure rfl rfl
  | cons u us ih =>
      cases room with
      | zero => exact minds_pure rfl rfl
      | succ room =>
          have hrest (listed : Bool) : MindsNone
              (if listed then do return u.connString :: (← declared ctx.numbered room us)
                else declared ctx.numbered (room + 1) us)
              (if listed then do return u.connString :: (← declared ctx room us)
                else declared ctx (room + 1) us) :=
            .ite ((ih room).bind fun _ => minds_pure rfl rfl) (ih (room + 1))
          have hlisted : MindsNone (ω := ω) (pure true : Act Empty _ Bool) (pure true) :=
            minds_pure rfl rfl
          exact .ite ((minds_isAvailable ctx u).bind hrest) (hlisted.bind hrest)

omit [Reader (ω × δ)] in
/-- Scanning hands out no readers. -/
theorem minds_scanned (ctx : Context ω δ) (room : Nat) (ds : List (Driver ω δ)) :
    MindsNone (scanned ctx.numbered room (ds.map Driver.numbered)) (scanned ctx room ds) := by
  induction ds generalizing room with
  | nil => cases room <;> exact minds_pure rfl rfl
  | cons d ds ih =>
      cases room with
      | zero => exact minds_pure rfl rfl
      | succ room =>
          refine .ite (ih (room + 1)) ((minds_passing (d.scan (room + 1))).bind fun found => ?_)
          exact (minds_log [] _ _ _).bind fun _ => (ih _).bind fun _ => minds_pure rfl rfl

/-- **Listing hands on no reader.** -/
theorem minds_list (ctx : Context ω δ) (max : Nat) :
    MindsNone (list ctx.numbered max) (list ctx max) := by
  refine (minds_declared ctx max ctx.userDevices).bind fun found => .ite (minds_pure rfl rfl) ?_
  refine .ite ?_ ?_
  · exact .ite ((minds_log [] _ _ _).bind fun _ => minds_pure rfl rfl) (minds_pure rfl rfl)
  · exact (minds_scanned ctx _ ctx.registry.drivers).bind fun _ => minds_pure rfl rfl

/-- **Opening hands on the reader of the device that it ends with**, and none if it fails. -/
theorem minds_openReader (ctx : Context ω δ) (text? : Option String) :
    MindsDevice [] (openReader ctx.numbered text?) (openReader ctx text?) := by
  cases text? with
  | some text =>
      have hnew : MindsNone (ω := ω) (ConnString.new text) (ConnString.new text) := by
        intro held n h
        unfold ConnString.new
        cases ConnString.ofString text <;> exact ⟨rfl, rfl, h⟩
      exact hnew.bind fun c => minds_openNamed ctx c
  | none =>
      refine (minds_list ctx 1).attempt.bind fun r => ?_
      have hnone : MindsDevice []
          (debug "No device found to open" >>= fun _ => throw .noSuchDevice)
          (debug "No device found to open" >>= fun _ => throw .noSuchDevice : Op ω (Device δ)) :=
        (minds_log [] _ _ _).bind fun _ => minds_throw _
      rcases r with e | _ | ⟨c, cs⟩
      · exact e.elim
      · exact hnone
      · exact minds_openNamed ctx c

end Context

end NearField
