import NearField.Proofs.Context.Alike
import NearField.Proofs.Noted

/-!
# Listing readers

A listing goes once through its sources: the readers that the user declared, in order, and then
the drivers that may scan, in the order of the registry (`Context.sources`).  Each source is asked
for what there is room for, and none once there is no more (`Context.gather`).  What is listed is
the first part of what all sources together have to say (`list_asks`).

`Question` is what a listing asks the drivers for, and `Context.questioned` a context that notes
it.
-/

namespace NearField

/-- What a listing asks the driver at a place of the registry for. -/
inductive Question where
  /-- To claim a reader, in order to find out whether it is there. -/
  | claim (place : Nat)
  /-- To scan for some readers at most. -/
  | scan (place room : Nat)
  deriving DecidableEq, Repr

variable {ω δ : Type}

/-- A driver that notes what it is asked for. -/
def Driver.questioned (d : Driver ω δ) (place : Nat) : Driver (Noted Question ω) δ where
  name := d.name
  scanType := d.scanType
  scan room := Noted.noting (.scan place room) (d.scan room)
  claim c := Noted.noting (.claim place) (d.claim c)

/-- Where a listing looks for readers. -/
inductive Source (ω δ : Type) where
  /-- A reader that the user declared. -/
  | declared (u : UserDevice)
  /-- A driver that may scan, and its place in the registry. -/
  | scan (d : Driver ω δ) (place : Nat)

namespace Context

/-- A context whose drivers note what they are asked for. -/
def questioned (ctx : Context ω δ) : Context (Noted Question ω) δ where
  registry := ⟨ctx.registry.drivers.zipIdx.map fun p => p.1.questioned p.2⟩
  autoscan := ctx.autoscan
  intrusiveScan := ctx.intrusiveScan
  userDevices := ctx.userDevices

/-- The drivers that the policies allow to scan. -/
def scanners (ctx : Context ω δ) (ds : List (Driver ω δ × Nat)) : List (Source ω δ) :=
  (ds.filter fun p => p.1.scanType = .notIntrusive ∨ ctx.intrusiveScan = true).map fun p =>
    .scan p.1 p.2

/-- Where a context looks for readers: the declared ones first, then the drivers that may scan,
if there is to be a scan at all. -/
def sources (ctx : Context ω δ) : List (Source ω δ) :=
  ctx.userDevices.map .declared ++
    if ctx.autoscan then ctx.scanners ctx.registry.drivers.zipIdx else []

variable [Reader (ω × δ)]

/-- A context that notes is alike in all but its notes. -/
theorem alike_questioned (ctx : Context ω δ) : Alike Noted.Around ctx.questioned ctx where
  drivers := Driver.forall₂_alike (fun _ _ =>
    { name := rfl
      scanType := rfl
      scan := fun _ => Noted.simulates_noting _ _
      claim := fun _ => Noted.simulates_noting _ _ }) ctx.registry.drivers 0
  autoscan := rfl
  intrusiveScan := rfl
  userDevices := rfl
  close := by
    rintro n _ rfl handle
    rfl

/-! ## One source -/

/-- Asks a source for some readers at most. -/
def ask (ctx : Context ω δ) : Source ω δ → Nat → Act Empty (Noted Question ω) (List ConnString)
  | .declared u, _ => do
    let listed ← if u.optional then isAvailable ctx.questioned u else pure true
    return if listed then [u.connString] else []
  | .scan d place, room => (d.questioned place).scan room

/-- What a source adds when there is so much room: the readers that it knows of, the questions
that it takes to find out, and the world that is left.  A declared reader that is not optional is
there unasked; an optional one is there if it can be opened, and then it is closed again. -/
inductive Adds (ctx : Context ω δ) (room : Nat) :
    Source ω δ → ω → List ConnString → List Question → ω → Prop where
  | listed {u : UserDevice} (w : ω) (hu : u.optional = false) :
      Adds ctx room (.declared u) w [u.connString] [] w
  | opens {u : UserDevice} {w w' : ω} {d : Device δ} (places : List Nat) (hu : u.optional = true)
      (h : (openNamed ctx u.connString).Yields w d w') :
      Adds ctx room (.declared u) w [u.connString] (places.map .claim)
        (Reader.close (w', d.backend)).state.1
  | refuses {u : UserDevice} {w w' : ω} {e : Error} (places : List Nat) (hu : u.optional = true)
      (h : (openNamed ctx u.connString).Fails w e w') :
      Adds ctx room (.declared u) w [] (places.map .claim) w'
  | scans {d : Driver ω δ} {place : Nat} {w w' : ω} {found : List ConnString}
      (h : (d.scan room).Yields w found w') :
      Adds ctx room (.scan d place) w found [.scan place room] w'

section Opening

/-- Only questions of opening were asked between two states. -/
def Claimed (n n' : Noted Question ω) : Prop :=
  ∃ places : List Nat, n'.notes = n.notes ++ places.map .claim

omit [Reader (ω × δ)] in
instance : IsPreorder (Noted Question ω) Claimed where
  refl n := ⟨[], (List.append_nil _).symm⟩
  trans n n' n'' := by
    rintro ⟨places, h⟩ ⟨places', h'⟩
    exact ⟨places ++ places', by rw [h', h, List.map_append, List.append_assoc]⟩

omit [Reader (ω × δ)] in
theorem leads_claimWith (c : ConnString) (ds : List (Driver ω δ × Nat)) :
    Act.Leads Claimed (fun _ => True) (claimWith c (ds.map fun p => p.1.questioned p.2)) := by
  induction ds with
  | nil => exact (Act.leads_log _ _ _).bind fun _ => Act.leads_throw trivial
  | cons p ds ih =>
      have hclaim : Act.Leads Claimed (fun _ => True) ((p.1.questioned p.2).claim c) :=
        fun n => ⟨⟨[p.2], rfl⟩, fun _ _ => trivial⟩
      refine .ite ih (hclaim.attempt.bind fun r => ?_)
      cases r with
      | ok claimed => exact Act.leads_pure _
      | error e => exact .ite ih ((Act.leads_log _ _ _).bind fun _ => Act.leads_throw trivial)

theorem leads_closeDevice {ε : Type} {E : ε → Prop} (d : Device δ) :
    Act.Leads Claimed E (closeDevice d : Act ε (Noted Question ω) Unit) :=
  fun _ => ⟨⟨[], (List.append_nil _).symm⟩, nofun⟩

/-- Opening asks the drivers for nothing but claims. -/
theorem leads_openNamed (ctx : Context ω δ) (c : ConnString) :
    Act.Leads Claimed (fun _ => True) (openNamed ctx.questioned c) := by
  refine (leads_claimWith c ctx.registry.drivers.zipIdx).bind fun d => ?_
  refine .ite ?_ ((Act.leads_log _ _ _).bind fun _ => Act.leads_pure _)
  refine (Act.leads_log _ _ _).bind fun _ => (leads_closeDevice _).bind fun _ => ?_
  exact (Act.leads_throw trivial).bind fun _ =>
    (Act.leads_log _ _ _).bind fun _ => Act.leads_pure _

end Opening

section Availability

variable {ctx : Context ω δ} {u : UserDevice} {w w' : ω}

/-- A reader that can be opened is there, and is closed again. -/
theorem yields_isAvailable {d : Device δ} (h : (openNamed ctx u.connString).Yields w d w') :
    (isAvailable ctx u).Yields w true (Reader.close (w', d.backend)).state.1 := by
  obtain ⟨hresult, rfl⟩ := h
  unfold isAvailable
  rw [Act.Yields, (Act.attempt_bind _ _ _).1, (Act.attempt_bind _ _ _).2]
  have hquiet : ((openNamed ctx u.connString).filtered .off w).result = .ok d := hresult
  rw [hquiet]
  exact ⟨rfl, rfl⟩

/-- A reader that can not be opened is not there. -/
theorem yields_isAvailable_of_fails {e : Error} (h : (openNamed ctx u.connString).Fails w e w') :
    (isAvailable ctx u).Yields w false w' := by
  obtain ⟨hresult, rfl⟩ := h
  unfold isAvailable
  rw [Act.Yields, (Act.attempt_bind _ _ _).1, (Act.attempt_bind _ _ _).2]
  have hquiet : ((openNamed ctx u.connString).filtered .off w).result = .error e := hresult
  rw [hquiet]
  exact ⟨rfl, rfl⟩

end Availability

/-- Every source adds what it has to say. -/
theorem ask_adds (ctx : Context ω δ) (source : Source ω δ) (room : Nat) (n : Noted Question ω) :
    ∃ found questions w, Adds ctx room source n.world found questions w ∧
      (ask ctx source room).Yields n found ⟨w, n.notes ++ questions⟩ := by
  cases source with
  | scan d place =>
      rcases (d.scan room).yields_or_fails n.world with ⟨found, h⟩ | ⟨e, -⟩
      · exact ⟨found, [.scan place room], _, .scans h, h.1, rfl⟩
      · exact e.elim
  | declared u =>
      by_cases hu : u.optional = true
      · -- the probe ends as opening does, and opening as it does in the world itself
        obtain ⟨hresult, hworld⟩ := (alike_questioned ctx).openNamed u.connString n n.world rfl
        obtain ⟨places, hnotes⟩ := (leads_openNamed ctx u.connString n).1
        rw [ask, if_pos hu]
        rcases (openNamed ctx.questioned u.connString).yields_or_fails n with ⟨d, h⟩ | ⟨e, h⟩
        · have hplain : (openNamed ctx u.connString).Yields n.world d _ :=
            ⟨hresult ▸ h.1, rfl⟩
          refine ⟨[u.connString], places.map .claim, _, .opens places hu hplain, ?_⟩
          have hthere := yields_isAvailable h
          rw [Noted.close_state, hworld, hnotes] at hthere
          exact hthere.bind _
        · have hplain : (openNamed ctx u.connString).Fails n.world e _ :=
            ⟨hresult ▸ h.1, rfl⟩
          refine ⟨[], places.map .claim, _, .refuses places hu hplain, ?_⟩
          have hmissing := yields_isAvailable_of_fails h
          have hstate : (openNamed ctx.questioned u.connString n).state =
              ⟨(openNamed ctx u.connString n.world).state, n.notes ++ places.map .claim⟩ := by
            rw [← hworld, ← hnotes]
          rw [hstate] at hmissing
          exact hmissing.bind _
      · rw [Bool.not_eq_true] at hu
        refine ⟨[u.connString], [], n.world, .listed _ hu, ?_⟩
        rw [ask, hu, List.append_nil]
        exact ⟨rfl, rfl⟩

/-! ## One source after the other -/

/-- Goes through sources for some readers at most. -/
def gather (ctx : Context ω δ) :
    Nat → List (Source ω δ) → Act Empty (Noted Question ω) (List ConnString)
  | 0, _ | _, [] => pure []
  | room + 1, source :: sources => do
    let found ← ask ctx source (room + 1)
    return found.take (room + 1) ++ (← gather ctx (room + 1 - found.length) sources)

section Gathering

variable (ctx : Context ω δ)

theorem gather_zero (sources : List (Source ω δ)) : gather ctx 0 sources = pure [] := by
  cases sources <;> rfl

theorem gather_nil (room : Nat) : gather ctx room [] = pure [] := by
  cases room <;> rfl

/-- What comes behind gets the room that is left. -/
theorem gather_append (room : Nat) (sources others : List (Source ω δ)) :
    gather ctx room (sources ++ others) = (do
      let found ← gather ctx room sources
      return found ++ (← gather ctx (room - found.length) others)) := by
  induction sources generalizing room with
  | nil => simp [gather_nil]
  | cons source sources ih =>
      cases room with
      | zero => simp [gather_zero]
      | succ room =>
          have hroom (found rest : List ConnString) : room + 1 -
              (found.take (room + 1) ++ rest).length = room + 1 - found.length - rest.length := by
            rw [List.length_append, List.length_take]
            omega
          simp only [List.cons_append, gather, ih, bind_assoc, pure_bind, hroom, List.append_assoc]

/-- The declared readers are listed source by source. -/
theorem declared_gather (room : Nat) (us : List UserDevice) :
    Act.Simulates Eq (declared ctx.questioned room us) (gather ctx room (us.map .declared)) := by
  induction us generalizing room with
  | nil =>
      rw [List.map_nil, gather_nil]
      cases room <;> exact Act.simulates_pure []
  | cons u us ih =>
      cases room with
      | zero =>
          rw [gather_zero]
          exact Act.simulates_pure []
      | succ room =>
          -- what comes behind the first reader has one place less if that one is listed
          have hrest (listed : Bool) : Act.Simulates Eq
              (if listed then do return u.connString :: (← declared ctx.questioned room us)
                else declared ctx.questioned (room + 1) us)
              (do
                let found : List ConnString := if listed then [u.connString] else []
                return found.take (room + 1) ++
                  (← gather ctx (room + 1 - found.length) (us.map .declared))) := by
            cases listed with
            | true =>
                simp only [if_true, List.take_succ_cons, List.take_nil, List.cons_append,
                  List.nil_append]
                exact (ih room).bind fun _ => Act.simulates_pure _
            | false => simpa using ih (room + 1)
          -- a reader that is not optional is listed without being asked for
          have hask : gather ctx (room + 1) (.declared u :: us.map .declared) =
              (if u.optional then isAvailable ctx.questioned u else pure true) >>= fun listed => (do
                let found : List ConnString := if listed then [u.connString] else []
                return found.take (room + 1) ++
                  (← gather ctx (room + 1 - found.length) (us.map .declared))) := by
            rw [gather, ask]
            by_cases hu : u.optional = true
            · simp only [if_pos hu, bind_assoc, pure_bind]
            · simp only [if_neg hu, pure_bind]
          rw [List.map_cons, hask, declared]
          by_cases hu : u.optional = true
          · rw [if_pos hu, if_pos hu]
            exact (Act.simulates_refl _).bind hrest
          · rw [if_neg hu, if_neg hu]
            exact (Act.simulates_refl _).bind hrest

omit [Reader (ω × δ)] in
theorem mayScan_questioned (d : Driver ω δ) (place : Nat) :
    ctx.questioned.mayScan (d.questioned place) = true ↔
      d.scanType = .notIntrusive ∨ ctx.intrusiveScan = true := by
  rw [mayScan, Bool.or_eq_true, decide_eq_true_eq]
  rfl

/-- The drivers that may scan are asked source by source. -/
theorem scanned_gather (room : Nat) (ds : List (Driver ω δ × Nat)) :
    Act.Simulates Eq (scanned ctx.questioned room (ds.map fun p => p.1.questioned p.2))
      (gather ctx room (ctx.scanners ds)) := by
  induction ds generalizing room with
  | nil => cases room <;> exact Act.simulates_pure []
  | cons p ds ih =>
      cases room with
      | zero =>
          rw [gather_zero]
          exact Act.simulates_pure []
      | succ room =>
          have hpolicy := ctx.mayScan_questioned p.1 p.2
          rw [List.map_cons, scanned, scanners, List.filter_cons]
          by_cases hmay : p.1.scanType = .notIntrusive ∨ ctx.intrusiveScan = true
          · rw [if_neg (by simp [hpolicy.mpr hmay]), if_pos (decide_eq_true hmay), List.map_cons,
              gather, ← scanners]
            refine (Act.simulates_refl _).bind fun found => .behind_log ?_
            have hroom : room + 1 - (found.take (room + 1)).length = room + 1 - found.length := by
              rw [List.length_take]
              omega
            rw [← hroom]
            exact (ih _).bind fun _ => Act.simulates_pure _
          · rw [if_pos (by simp [mt hpolicy.mp hmay]), if_neg (by simpa using hmay), ← scanners]
            exact ih (room + 1)

/-- **A listing goes through its sources.** -/
theorem list_gather (max : Nat) :
    Act.Simulates Eq (list ctx.questioned max) (gather ctx max ctx.sources) := by
  rw [sources, gather_append]
  refine (declared_gather ctx max ctx.userDevices).bind fun found => ?_
  by_cases hfull : max ≤ found.length
  · rw [if_pos hfull, Nat.sub_eq_zero_of_le hfull, gather_zero, pure_bind, List.append_nil]
    exact Act.simulates_pure found
  · rw [if_neg hfull]
    cases hscan : ctx.autoscan with
    | true =>
        have hscans : ¬ (!ctx.questioned.autoscan) = true := by simp [questioned, hscan]
        rw [if_neg hscans, if_pos rfl]
        exact (scanned_gather ctx _ _).bind fun _ => Act.simulates_pure _
    | false =>
        have hstays : (!ctx.questioned.autoscan) = true := by simp [questioned, hscan]
        rw [if_pos hstays, if_neg Bool.false_ne_true, gather_nil, pure_bind, List.append_nil]
        -- whether a warning is logged is of no account
        split
        · exact .behind_log (Act.simulates_pure found)
        · exact Act.simulates_pure found

end Gathering

/-! ## What is listed -/

/-- These sources, asked one after the other, give these answers.  Each is asked only while there
is room, and for what the answers before it have left of the room. -/
inductive Answered (ctx : Context ω δ) : Nat → List (Source ω δ) → ω → List (List ConnString) →
    List Question → ω → Prop where
  | nobody (room : Nat) (w : ω) : Answered ctx room [] w [] [] w
  | next {room : Nat} {source : Source ω δ} {sources : List (Source ω δ)} {w w' w'' : ω}
      {found : List ConnString} {answers : List (List ConnString)}
      {questions questions' : List Question} (hroom : 0 < room)
      (h : Adds ctx room source w found questions w')
      (t : Answered ctx (room - found.length) sources w' answers questions' w'') :
      Answered ctx room (source :: sources) w (found :: answers) (questions ++ questions') w''

/-- Sources are asked in order until there is no more room. -/
theorem gather_answered (ctx : Context ω δ) (room : Nat) (sources : List (Source ω δ))
    (n : Noted Question ω) :
    ∃ asked rest answers questions w, sources = asked ++ rest ∧
      Answered ctx room asked n.world answers questions w ∧
      (rest = [] ∨ room ≤ answers.flatten.length) ∧
      (gather ctx room sources).Yields n (answers.flatten.take room) ⟨w, n.notes ++ questions⟩ := by
  -- on the sources, as each is handed the room that the ones before it left
  induction sources generalizing room n with
  | nil =>
      refine ⟨[], [], [], [], n.world, rfl, .nobody _ _, .inl rfl, ?_⟩
      rw [gather_nil, List.append_nil, List.flatten_nil, List.take_nil]
      exact ⟨rfl, rfl⟩
  | cons source sources ih =>
      cases room with
      | zero =>
          refine ⟨[], source :: sources, [], [], n.world, rfl, .nobody _ _,
            .inr (Nat.zero_le _), ?_⟩
          rw [gather_zero, List.append_nil, List.take_zero]
          exact ⟨rfl, rfl⟩
      | succ room =>
          obtain ⟨found, questions, w, hadds, hasked⟩ := ask_adds ctx source (room + 1) n
          obtain ⟨asked, rest, answers, questions', w', rfl, hanswered, hrest, hgather⟩ :=
            ih (room + 1 - found.length) ⟨w, n.notes ++ questions⟩
          refine ⟨source :: asked, rest, found :: answers, questions ++ questions', w', rfl,
            .next (Nat.succ_pos _) hadds hanswered, ?_, ?_⟩
          · refine hrest.imp_right fun h => ?_
            rw [List.flatten_cons, List.length_append]
            omega
          · rw [List.flatten_cons, List.take_append, ← List.append_assoc]
            exact Act.yields_bind.mpr ⟨_, _, hasked, Act.yields_bind.mpr ⟨_, _, hgather,
              Act.yields_pure.mpr ⟨rfl, rfl⟩⟩⟩

/-- **A listing is the first part of what its sources have to say.**  The declared readers and
then the drivers that may scan are asked in order, each for what there is room for, and none is
asked once there is no more room.  Whatever those that are not asked would have answered, the
first answers up to the given number are what is listed, and the questions to the drivers are
those that the sources before took. -/
theorem list_asks (ctx : Context ω δ) (max : Nat) (w : ω) :
    let listed := list ctx max w
    let seen := list ctx.questioned max ⟨w, []⟩
    (seen.result = listed.result ∧ seen.state.world = listed.state) ∧
      ∃ asked rest answers questions w', ctx.sources = asked ++ rest ∧
        Answered ctx max asked w answers questions w' ∧ seen.state = ⟨w', questions⟩ ∧
          (rest = [] ∨ max ≤ answers.flatten.length) ∧
            ∀ others : List (List ConnString), others.length = rest.length →
              seen.result = .ok ((answers ++ others).flatten.take max) := by
  intro listed seen
  refine ⟨(alike_questioned ctx).list max ⟨w, []⟩ w rfl, ?_⟩
  obtain ⟨hresult, hstate⟩ := list_gather ctx max ⟨w, []⟩ ⟨w, []⟩ rfl
  obtain ⟨asked, rest, answers, questions, w', hsources, hanswered, hrest, hgather⟩ :=
    gather_answered ctx max ctx.sources ⟨w, []⟩
  refine ⟨asked, rest, answers, questions, w', hsources, hanswered, hstate.trans hgather.2, hrest,
    fun others hothers => (hresult.trans hgather.1).trans ?_⟩
  rcases hrest with rfl | hfull
  · rw [List.length_eq_zero_iff.mp hothers, List.append_nil]
  · rw [List.flatten_append, List.take_append_of_le_length hfull]

/-- An intrusive driver is not asked, and one that reports too much is cut short. -/
example :
    letI : Reader (Unit × BareReader) := {}
    let c : ConnString := ⟨"acr122", by decide, by decide⟩
    let driver (name : String) (t : ScanType) (found : List ConnString) : Driver Unit BareReader :=
      { name := name, scanType := t, scan := fun _ => pure found, claim := fun _ => throw .io }
    let ctx : Context Unit BareReader := { registry := ⟨[driver "arygon" .intrusive [c],
      driver "pcsc" .notIntrusive [c, c, c], driver "pn53x_usb" .notIntrusive [c]]⟩ }
    let seen := list ctx.questioned 2 ⟨(), []⟩
    (seen.result.toOption, seen.state.notes) = (some [c, c], [.scan 1 2]) :=
  rfl

end Context

end NearField
