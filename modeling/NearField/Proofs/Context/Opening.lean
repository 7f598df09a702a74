import NearField.Reader.Inner
import NearField.Proofs.ConnString
import NearField.Proofs.Context.Alike

/-!
# Opening by a connection string

A context that opens a reader asks the drivers that the connection string means, in the order of
the registry: the first one alone, or one after the other behind a string that asks for any USB
driver.  `Visited ω` is a world that notes which drivers are asked to claim a reader and which
readers are closed again, and `Context.visited` is a context for it, which opens readers as the
plain one does (`simulates_openReader`).  `openReader_asks` says which drivers are asked and how
opening ends.  A reader that is claimed gets the name that the user declared for its connection
string, if there is one, and is closed again if its name is too long (`Finished`).
-/

namespace NearField

/-- What opening does to a world. -/
inductive Visit where
  /-- The driver at a place of the registry is asked to claim a reader. -/
  | claim (place : Nat)
  /-- A claimed reader is closed. -/
  | close
  deriving DecidableEq, Repr

/-- A world, and what was done to it. -/
structure Visited (ω : Type) where
  world : ω
  visits : List Visit := []

namespace Visited

variable {ε ω δ α : Type}

/-- Runs an action of the world itself. -/
def passing (a : Act ε ω α) : Act ε (Visited ω) α :=
  a.zoom Visited.world fun w v => { v with world := w }

/-- Notes what is done. -/
def note (x : Visit) (v : Visited ω) : Visited ω := { v with visits := v.visits ++ [x] }

/-- The reader of the world itself. -/
def reader [Reader (ω × δ)] (s : Visited ω × δ) : InnerReader (Visited ω × δ) where
  Inner := ω × δ
  inner := (s.1.world, s.2)
  put p := ({ s.1 with world := p.1 }, p.2)

instance [Reader (ω × δ)] : Reader (Visited ω × δ) :=
  { Reader.ofInner reader with
    close := do
      modify fun s => (note .close s.1, s.2)
      InnerReader.run reader fun _ => Reader.close }

end Visited

variable {ω δ : Type} {c : ConnString}

/-- A driver that notes when it is asked to claim a reader. -/
def Driver.visited (d : Driver ω δ) (place : Nat) : Driver (Visited ω) δ where
  name := d.name
  scanType := d.scanType
  scan max := Visited.passing (d.scan max)
  claim c := do
    modify (Visited.note (.claim place))
    Visited.passing (d.claim c)

section Claims

variable {d : Driver ω δ} {place : Nat} {claimed : Claim δ} {e : Error} {v : Visited ω} {w : ω}

theorem Driver.visited_yields (h : (d.claim c).Yields v.world claimed w) :
    ((d.visited place).claim c).Yields v claimed ⟨w, v.visits ++ [.claim place]⟩ := by
  obtain ⟨hresult, rfl⟩ := h
  exact ⟨hresult, rfl⟩

theorem Driver.visited_fails (h : (d.claim c).Fails v.world e w) :
    ((d.visited place).claim c).Fails v e ⟨w, v.visits ++ [.claim place]⟩ := by
  obtain ⟨hresult, rfl⟩ := h
  exact ⟨hresult, rfl⟩

end Claims

namespace Context

/-- Drivers that note when they are asked, each with its place. -/
def visitedDrivers (ds : List (Driver ω δ × Nat)) : List (Driver (Visited ω) δ) :=
  ds.map fun p => p.1.visited p.2

/-- A context whose drivers note when they are asked. -/
def visited (ctx : Context ω δ) : Context (Visited ω) δ where
  registry := ⟨visitedDrivers ctx.registry.drivers.zipIdx⟩
  autoscan := ctx.autoscan
  intrusiveScan := ctx.intrusiveScan
  userDevices := ctx.userDevices

/-! ## Names -/

/-- The name of a reader: the one that the user declared first for its connection string, or else
the one that it got from its driver. -/
def nameFor (ctx : Context ω δ) (c : ConnString) (given : String) : String :=
  match ctx.userDevices.find? fun u => u.connString = c with
  | some u => u.name
  | none => given

theorem rename_eq (ctx : Context ω δ) (d : Device δ) :
    ctx.rename d = { d with name := ctx.nameFor d.connString d.name } := by
  have hsame : (fun u : UserDevice => u.connString.text == d.connString.text) =
      fun u => decide (u.connString = d.connString) := by
    funext u
    rw [Bool.eq_iff_iff, beq_iff_eq, decide_eq_true_eq, ConnString.text_inj]
  unfold rename nameFor
  rw [hsame]
  cases ctx.userDevices.find? fun u => decide (u.connString = d.connString) <;> rfl

variable [Reader (ω × δ)]

/-! ## Claimed readers -/

section Finish

variable {ctx : Context ω δ} {d : Device δ}

/-- A reader whose name is short enough is handed out. -/
theorem yields_finish (h : (ctx.rename d).name.utf8ByteSize < nameCapacity) (w : ω) :
    (finish ctx d).Yields w (ctx.rename d) w := by
  unfold finish
  rw [if_neg (Nat.not_le.mpr h)]
  exact ⟨rfl, rfl⟩

/-- A reader whose name is too long is closed. -/
theorem fails_finish (h : nameCapacity ≤ (ctx.rename d).name.utf8ByteSize) (w : ω) :
    (finish ctx d).Fails w .bufferOverflow (Reader.close (w, d.backend)).state.1 := by
  have hbackend : (ctx.rename d).backend = d.backend := by rw [rename_eq]
  unfold finish
  rw [if_pos h, ← hbackend]
  exact ⟨rfl, rfl⟩

end Finish

/-! ## The search -/

section Search

variable {d : Driver ω δ} {ds : List (Driver ω δ)} {claimed : Claim δ} {e : Error} {w w' : ω}

omit [Reader (ω × δ)]

/-- Drivers that the string does not mean are passed over. -/
theorem claimWith_filter (c : ConnString) (ds : List (Driver ω δ)) :
    claimWith c ds = claimWith c (ds.filter fun d => c.Means d.name) := by
  induction ds with
  | nil => rfl
  | cons d ds ih =>
      by_cases h : c.Means d.name
      · rw [List.filter_cons, if_pos (decide_eq_true h)]
        unfold claimWith
        rw [ih]
      · have hskipped : (!c.matchesDriver d.name) = true := by
          rw [Bool.not_eq_true', Bool.eq_false_iff, Ne, ConnString.matchesDriver_iff]
          exact h
        rw [List.filter_cons, if_neg (by rwa [decide_eq_true_eq]), ← ih, claimWith, if_pos hskipped]

/-- What becomes of a claim: a failure ends the search or is passed over. -/
def settle (c : ConnString) (d : Driver ω δ) (ds : List (Driver ω δ)) :
    Except Error (Claim δ) → Op ω (Device δ)
  | .ok claimed => return ⟨claimed.name, c, d.name, claimed.handle, none, false⟩
  | .error e => do
    if c.isUsbRequest then claimWith c ds else
    debug ("Unable to open \"" ++ c.text ++ "\".")
    throw e

theorem claimWith_cons (h : c.Means d.name) :
    claimWith c (d :: ds) = (d.claim c).attempt >>= settle c d ds := by
  have hasked : ¬ (!c.matchesDriver d.name) = true := by
    rw [ConnString.matchesDriver_iff.mpr h]
    exact Bool.noConfusion
  rw [claimWith, if_neg hasked]
  rfl

theorem claimWith_nil (c : ConnString) (w : ω) :
    (claimWith c ([] : List (Driver ω δ))).Fails w .noSuchDevice w :=
  ⟨rfl, rfl⟩

/-- A reader that is claimed ends the search. -/
theorem claimWith_claimed (hd : c.Means d.name) (h : (d.claim c).Yields w claimed w') :
    (claimWith c (d :: ds)).Yields w ⟨claimed.name, c, d.name, claimed.handle, none, false⟩ w' := by
  obtain ⟨hresult, rfl⟩ := h
  rw [claimWith_cons hd, Act.Yields, (Act.attempt_bind _ _ _).1, (Act.attempt_bind _ _ _).2,
    hresult]
  exact ⟨rfl, rfl⟩

/-- Behind a string for any USB driver the search goes on after a failure. -/
theorem claimWith_passed (hd : c.Means d.name) (husb : c.AsksUsb)
    (h : (d.claim c).Fails w e w') :
    (claimWith c (d :: ds) w).result = (claimWith c ds w').result ∧
      (claimWith c (d :: ds) w).state = (claimWith c ds w').state := by
  obtain ⟨hresult, rfl⟩ := h
  rw [claimWith_cons hd, (Act.attempt_bind _ _ _).1, (Act.attempt_bind _ _ _).2, hresult, settle,
    if_pos (ConnString.isUsbRequest_iff.mpr husb)]
  exact ⟨rfl, rfl⟩

/-- Behind any other string a failure ends the search. -/
theorem claimWith_failed (hd : c.Means d.name) (husb : ¬ c.AsksUsb)
    (h : (d.claim c).Fails w e w') : (claimWith c (d :: ds)).Fails w e w' := by
  obtain ⟨hresult, rfl⟩ := h
  rw [claimWith_cons hd, Act.Fails, (Act.attempt_bind _ _ _).1, (Act.attempt_bind _ _ _).2, hresult,
    settle, if_neg (mt ConnString.isUsbRequest_iff.mp husb)]
  exact ⟨rfl, rfl⟩

end Search

/-! ## Asking the drivers that are meant -/

section Asking

variable {asked : List (Driver ω δ × Nat)}

/-- The drivers that a string means, in the order of the registry and each with its place. -/
def meant (ctx : Context ω δ) (c : ConnString) : List (Driver ω δ × Nat) :=
  ctx.registry.drivers.zipIdx.filter fun p => c.Means p.1.name

/-- What is noted when these drivers are asked. -/
def claims (asked : List (Driver ω δ × Nat)) : List Visit := asked.map fun p => .claim p.2

/-- These drivers, asked one after the other, all refuse to claim a reader. -/
inductive Refused (c : ConnString) : List (Driver ω δ × Nat) → ω → ω → Prop where
  | nobody (w : ω) : Refused c [] w w
  | next {d : Driver ω δ} {place : Nat} {others : List (Driver ω δ × Nat)} {e : Error}
      {w w' w'' : ω} (h : (d.claim c).Fails w e w') (t : Refused c others w' w'') :
      Refused c ((d, place) :: others) w w''

omit [Reader (ω × δ)]

theorem means_of_mem_meant {ctx : Context ω δ} {p : Driver ω δ × Nat} (h : p ∈ ctx.meant c) :
    c.Means p.1.name :=
  of_decide_eq_true (List.mem_filter.mp h).2

theorem claimWith_visited (ctx : Context ω δ) (c : ConnString) :
    claimWith c ctx.visited.registry.drivers = claimWith c (visitedDrivers (ctx.meant c)) := by
  rw [claimWith_filter, visited, visitedDrivers, List.filter_map]
  rfl

/-- Behind any other string the first driver decides. -/
theorem claimWith_first {d : Driver ω δ} {place : Nat} (husb : ¬ c.AsksUsb)
    (hmeans : c.Means d.name) (others : List (Driver ω δ × Nat)) (v : Visited ω) :
    (∃ e w, (d.claim c).Fails v.world e w ∧
        (claimWith c (visitedDrivers ((d, place) :: others))).Fails v e
          ⟨w, v.visits ++ [.claim place]⟩) ∨
      ∃ claimed w, (d.claim c).Yields v.world claimed w ∧
        (claimWith c (visitedDrivers ((d, place) :: others))).Yields v
          ⟨claimed.name, c, d.name, claimed.handle, none, false⟩
          ⟨w, v.visits ++ [.claim place]⟩ := by
  have hasked : c.Means (d.visited place).name := hmeans
  rcases (d.claim c).yields_or_fails v.world with ⟨claimed, h⟩ | ⟨e, h⟩
  · exact .inr ⟨claimed, _, h, claimWith_claimed hasked (Driver.visited_yields h)⟩
  · exact .inl ⟨e, _, h, claimWith_failed hasked husb (Driver.visited_fails h)⟩

/-- Behind a string for any USB driver all refuse, or they do up to one that claims. -/
theorem claimWith_usb (husb : c.AsksUsb) (hasked : ∀ p ∈ asked, c.Means p.1.name)
    (v : Visited ω) :
    (∃ w, Refused c asked v.world w ∧
        (claimWith c (visitedDrivers asked)).Fails v .noSuchDevice
          ⟨w, v.visits ++ claims asked⟩) ∨
      ∃ before d place after w claimed w', asked = before ++ (d, place) :: after ∧
        Refused c before v.world w ∧ (d.claim c).Yields w claimed w' ∧
          (claimWith c (visitedDrivers asked)).Yields v
            ⟨claimed.name, c, d.name, claimed.handle, none, false⟩
            ⟨w', v.visits ++ claims (before ++ [(d, place)])⟩ := by
  induction asked generalizing v with
  | nil =>
      have hvisits : v.visits ++ claims ([] : List (Driver ω δ × Nat)) = v.visits :=
        List.append_nil _
      rw [hvisits]
      exact .inl ⟨_, .nobody _, claimWith_nil c v⟩
  | cons p others ih =>
      obtain ⟨d, place⟩ := p
      obtain ⟨(hmeans : c.Means d.name), hothers⟩ := List.forall_mem_cons.mp hasked
      rcases (d.claim c).yields_or_fails v.world with ⟨claimed, h⟩ | ⟨e, h⟩
      · exact .inr ⟨[], d, place, others, _, claimed, _, rfl, .nobody _, h,
          claimWith_claimed hmeans (Driver.visited_yields h)⟩
      · -- the driver refuses, and the others are asked in the world that it leaves
        let v' : Visited ω := ⟨(d.claim c v.world).state, v.visits ++ [.claim place]⟩
        have hvisits (l : List (Driver ω δ × Nat)) :
            v'.visits ++ claims l = v.visits ++ claims ((d, place) :: l) :=
          List.append_assoc _ _ _
        have hrefuses : ((d.visited place).claim c).Fails v e v' := Driver.visited_fails h
        obtain ⟨hresult, hstate⟩ :
            (claimWith c (visitedDrivers ((d, place) :: others)) v).result =
                (claimWith c (visitedDrivers others) v').result ∧
              (claimWith c (visitedDrivers ((d, place) :: others)) v).state =
                (claimWith c (visitedDrivers others) v').state :=
          claimWith_passed hmeans husb hrefuses
        rcases ih hothers v' with ⟨w, hrefused, hfails⟩ |
          ⟨before, d', place', after, w, claimed, w', rfl, hrefused, hclaims, hyields⟩
        · rw [hvisits] at hfails
          exact .inl ⟨w, .next h hrefused, hresult.trans hfails.1, hstate.trans hfails.2⟩
        · rw [hvisits] at hyields
          exact .inr ⟨(d, place) :: before, d', place', after, w, claimed, w', rfl,
            .next h hrefused, hclaims, hresult.trans hyields.1, hstate.trans hyields.2⟩

end Asking

/-! ## Opening -/

section Simulation

/-- The world that is noted about is this one. -/
def Around (v : Visited ω) (w : ω) : Prop := v.world = w

/-- A context that notes is alike in all but its notes. -/
theorem alike_visited (ctx : Context ω δ) : Alike Around ctx.visited ctx where
  drivers := Driver.forall₂_alike (fun d place =>
    { name := rfl
      scanType := rfl
      scan := by
        rintro room v _ rfl
        exact ⟨rfl, rfl⟩
      claim := by
        rintro c v _ rfl
        exact ⟨rfl, rfl⟩ }) ctx.registry.drivers 0
  autoscan := rfl
  intrusiveScan := rfl
  userDevices := rfl
  close := by
    rintro v _ rfl handle
    rfl

/-- Noting what is done changes nothing else. -/
theorem simulates_openReader (ctx : Context ω δ) (text : String) :
    Act.Simulates Around (openReader ctx.visited (some text)) (openReader ctx (some text)) :=
  (simulates_new text).bind fun c => (alike_visited ctx).openNamed c

end Simulation

/-- How opening ends for a reader that a driver has claimed, and what it leaves: the reader is
handed out under its name, unless that takes 256 bytes or more; then it is closed. -/
def Finished (ctx : Context ω δ) (c : ConnString) (d : Driver ω δ) (claimed : Claim δ)
    (v : Visited ω) (r : Except Error (Device δ)) (v' : Visited ω) : Prop :=
  let name := ctx.nameFor c claimed.name
  (name.utf8ByteSize < 256 ∧ r = .ok ⟨name, c, d.name, claimed.handle, none, false⟩ ∧ v' = v) ∨
    (256 ≤ name.utf8ByteSize ∧ r = .error .bufferOverflow ∧
      v' = ⟨(Reader.close (v.world, claimed.handle)).state.1, v.visits ++ [.close]⟩)

/-- A search that claims a reader leaves the rest to its name. -/
theorem finished_of_claimed {ctx : Context ω δ} {d : Driver ω δ} {claimed : Claim δ}
    {search : Op (Visited ω) (Device δ)} {v v' : Visited ω}
    (h : search.Yields v ⟨claimed.name, c, d.name, claimed.handle, none, false⟩ v') :
    Finished ctx c d claimed v' ((search >>= finish ctx.visited) v).result
      ((search >>= finish ctx.visited) v).state := by
  let device : Device δ := ⟨claimed.name, c, d.name, claimed.handle, none, false⟩
  let named : Device δ := { device with name := ctx.nameFor c claimed.name }
  have hrename : ctx.visited.rename device = named := rename_eq ctx.visited device
  rw [(h.bind _).1, (h.bind _).2]
  rcases Nat.lt_or_ge named.name.utf8ByteSize nameCapacity with hshort | hlong
  · have hfinish : (finish ctx.visited device).Yields v' named v' := by
      rw [← hrename] at hshort ⊢
      exact yields_finish hshort v'
    exact .inl ⟨hshort, hfinish⟩
  · have hfinish := hlong
    rw [← hrename] at hfinish
    exact .inr ⟨hlong, fails_finish hfinish v'⟩

/-- Opening by a connection string searches among the drivers that it means. -/
theorem openReader_visited (ctx : Context ω δ) (c : ConnString) (v : Visited ω) :
    let search := claimWith c (visitedDrivers (ctx.meant c))
    (openReader ctx.visited (some c.text) v).result =
        ((search >>= finish ctx.visited) v).result ∧
      (openReader ctx.visited (some c.text) v).state =
        ((search >>= finish ctx.visited) v).state := by
  have hopen := (ConnString.yields_new c v).bind (openNamed ctx.visited)
  unfold openNamed at hopen
  rw [claimWith_visited] at hopen
  exact hopen

/-- **The drivers that a connection string means are asked, and no others.**  Unless the string
asks for any USB driver it is the first of them alone, and how it fails is how opening fails.  Else
they are asked one after the other until one claims a reader.  There is no such device if no driver
is meant, or if all refuse behind a string for any USB driver. -/
theorem openReader_asks (ctx : Context ω δ) (c : ConnString) (w : ω) :
    let opened := openReader ctx (some c.text) w
    let seen := openReader ctx.visited (some c.text) ⟨w, []⟩
    (seen.result = opened.result ∧ seen.state.world = opened.state) ∧
      (¬ c.AsksUsb →
        (ctx.meant c = [] ∧ seen.result = .error .noSuchDevice ∧ seen.state = ⟨w, []⟩) ∨
          ∃ d place others, ctx.meant c = (d, place) :: others ∧
            ((∃ e w', (d.claim c).Fails w e w' ∧
                seen.result = .error e ∧ seen.state = ⟨w', [.claim place]⟩) ∨
              ∃ claimed w', (d.claim c).Yields w claimed w' ∧
                Finished ctx c d claimed ⟨w', [.claim place]⟩ seen.result seen.state)) ∧
      (c.AsksUsb →
        (∃ w', Refused c (ctx.meant c) w w' ∧
            seen.result = .error .noSuchDevice ∧ seen.state = ⟨w', claims (ctx.meant c)⟩) ∨
          ∃ before d place after w' claimed w'', ctx.meant c = before ++ (d, place) :: after ∧
            Refused c before w w' ∧ (d.claim c).Yields w' claimed w'' ∧
              Finished ctx c d claimed ⟨w'', claims (before ++ [(d, place)])⟩ seen.result
                seen.state) := by
  intro opened seen
  let start : Visited ω := ⟨w, []⟩
  have hmeans : ∀ p ∈ ctx.meant c, c.Means p.1.name := fun _ => means_of_mem_meant
  have hsame : seen.result = opened.result ∧ seen.state.world = opened.state :=
    simulates_openReader ctx c.text start w rfl
  obtain ⟨hresult, hstate⟩ := openReader_visited ctx c start
  change seen.result = _ at hresult
  change seen.state = _ at hstate
  rw [hresult, hstate] at hsame ⊢
  refine ⟨hsame, fun husb => ?_, fun husb => ?_⟩
  · -- the first driver that is meant has the last word
    cases hmeant : ctx.meant c with
    | nil => exact .inl ⟨rfl, (claimWith_nil c start).bind (finish ctx.visited)⟩
    | cons p others =>
        obtain ⟨d, place⟩ := p
        refine .inr ⟨d, place, others, rfl, ?_⟩
        rw [hmeant] at hmeans
        rcases claimWith_first husb (hmeans _ List.mem_cons_self) others start with
          ⟨e, w', hrefuses, hfails⟩ | ⟨claimed, w', hclaims, hyields⟩
        · exact .inl ⟨e, w', hrefuses, hfails.bind _⟩
        · exact .inr ⟨claimed, w', hclaims, finished_of_claimed hyields⟩
  · -- drivers that refuse with no such device are passed over, up to the first that does not
    rcases claimWith_usb husb hmeans start with ⟨w', hrefused, hfails⟩ |
      ⟨before, d, place, after, w', claimed, w'', hmeant, hrefused, hclaims, hyields⟩
    · exact .inl ⟨w', hrefused, hfails.bind (finish ctx.visited)⟩
    · exact .inr ⟨before, d, place, after, w', claimed, w'', hmeant, hrefused, hclaims,
        finished_of_claimed hyields⟩

/-- A driver that refuses is passed over, and one that is not meant is not asked. -/
example :
    letI : Reader (Unit × BareReader) := {}
    let driver (name : String) (r : Except Error (Claim BareReader)) : Driver Unit BareReader :=
      { name := name, claim := fun _ => Act.ofExcept r }
    let ctx : Context Unit BareReader := { registry := ⟨[driver "pn53x_usb" (.error .io),
      driver "arygon" (.error .io), driver "acr122_usb" (.ok ⟨"reader", {}⟩)]⟩ }
    (openReader ctx.visited (some "usb") ⟨(), []⟩).state.visits = [.claim 0, .claim 2] :=
  rfl

end Context

end NearField
