import NearField.Context
import NearField.Proofs.Act
import Mathlib.Data.List.Forall2

/-!
# Contexts that open and list alike

Two contexts over different worlds open and list alike, from worlds that are related by `R`, if
their drivers do so one by one, closing a reader keeps the relation, and the declared readers and
the policies are the same (`Context.Alike`).  So a context whose drivers also take notes opens and
lists as the plain one does.
-/

namespace NearField

variable {ω ω' δ : Type} {R : ω → ω' → Prop}

/-- A driver for another world that scans and claims as this one does. -/
structure Driver.Alike (R : ω → ω' → Prop) (d : Driver ω δ) (d' : Driver ω' δ) : Prop where
  name : d.name = d'.name
  scanType : d.scanType = d'.scanType
  scan (room : Nat) : Act.Simulates R (d.scan room) (d'.scan room)
  claim (c : ConnString) : Act.Simulates R (d.claim c) (d'.claim c)

/-- Drivers are alike one by one if each is made alike at its place. -/
theorem Driver.forall₂_alike {f : Driver ω δ × Nat → Driver ω' δ} {S : ω' → ω → Prop}
    (h : ∀ d place, Driver.Alike S (f (d, place)) d) (ds : List (Driver ω δ)) (start : Nat) :
    List.Forall₂ (Driver.Alike S) ((ds.zipIdx start).map f) ds := by
  induction ds generalizing start with
  | nil => exact .nil
  | cons d ds ih => exact .cons (h d start) (ih (start + 1))

namespace Context

variable [Reader (ω × δ)] [Reader (ω' × δ)]

/-- A context for another world that differs from this one in nothing but the world. -/
structure Alike (R : ω → ω' → Prop) (ctx : Context ω δ) (ctx' : Context ω' δ) : Prop where
  drivers : List.Forall₂ (Driver.Alike R) ctx.registry.drivers ctx'.registry.drivers
  autoscan : ctx.autoscan = ctx'.autoscan
  intrusiveScan : ctx.intrusiveScan = ctx'.intrusiveScan
  userDevices : ctx.userDevices = ctx'.userDevices
  close {w : ω} {w' : ω'} (h : R w w') (handle : δ) :
    R (Reader.close (w, handle)).state.1 (Reader.close (w', handle)).state.1

/-! ## Opening -/

omit [Reader (ω × δ)] [Reader (ω' × δ)] in
/-- A text is a connection string or is not, in either world. -/
theorem simulates_new (text : String) :
    Act.Simulates R (ConnString.new text) (ConnString.new text) := by
  intro w w' h
  unfold ConnString.new
  cases ConnString.ofString text <;> exact ⟨rfl, h⟩

omit [Reader (ω × δ)] [Reader (ω' × δ)] in
/-- Drivers that claim alike are asked alike. -/
theorem simulates_claimWith (c : ConnString) {ds : List (Driver ω δ)} {ds' : List (Driver ω' δ)}
    (h : List.Forall₂ (Driver.Alike R) ds ds') :
    Act.Simulates R (claimWith c ds) (claimWith c ds') := by
  induction h with
  | nil => exact (Act.simulates_log _ _ _).bind fun _ => Act.simulates_throw _
  | cons hd _ ih =>
      unfold claimWith
      rw [hd.name]
      refine .ite ih ((hd.claim c).attempt.bind fun r => ?_)
      cases r with
      | ok claimed => exact Act.simulates_pure _
      | error e => exact .ite ih ((Act.simulates_log _ _ _).bind fun _ => Act.simulates_throw e)

variable {ctx : Context ω δ} {ctx' : Context ω' δ} (h : Alike R ctx ctx')
include h

/-- Closing a reader keeps the worlds alike. -/
theorem Alike.closeDevice {ε : Type} (d : Device δ) :
    Act.Simulates R (closeDevice d : Act ε ω Unit) (closeDevice d) :=
  fun _ _ hw => ⟨rfl, h.close hw d.backend⟩

/-- Declared names are the same in both contexts. -/
theorem Alike.rename (d : Device δ) : ctx.rename d = ctx'.rename d := by
  unfold Context.rename
  rw [h.userDevices]

/-- A device that cannot be kept is closed in both worlds. -/
theorem Alike.finish (d : Device δ) : Act.Simulates R (finish ctx d) (finish ctx' d) := by
  unfold Context.finish
  rw [h.rename d]
  exact .ite
    ((Act.simulates_log _ _ _).bind fun _ => (h.closeDevice _).bind fun _ => Act.simulates_throw _)
    ((Act.simulates_log _ _ _).bind fun _ => Act.simulates_pure _)

/-- Opening a reader by its name ends alike. -/
theorem Alike.openNamed (c : ConnString) :
    Act.Simulates R (openNamed ctx c) (openNamed ctx' c) :=
  (simulates_claimWith c h.drivers).bind fun d => h.finish d

/-! ## Listing -/

/-- A declared reader is found in both worlds, or in neither. -/
theorem Alike.isAvailable (u : UserDevice) :
    Act.Simulates R (isAvailable ctx u) (isAvailable ctx' u) := by
  have hquiet : Act.Simulates R ((Context.openNamed ctx u.connString).filtered .off)
      ((Context.openNamed ctx' u.connString).filtered .off) := h.openNamed u.connString
  refine hquiet.attempt.bind fun r => ?_
  cases r with
  | error e => exact Act.simulates_pure false
  | ok d =>
      exact (h.closeDevice d).bind fun _ =>
        (Act.simulates_log _ _ _).bind fun _ => Act.simulates_pure true

/-- The declared readers are listed alike, and as many. -/
theorem Alike.declared (room : Nat) (us : List UserDevice) :
    Act.Simulates R (declared ctx room us) (declared ctx' room us) := by
  induction us generalizing room with
  | nil => cases room <;> exact Act.simulates_pure []
  | cons u us ih =>
      cases room with
      | zero => exact Act.simulates_pure []
      | succ room =>
          have hrest (listed : Bool) : Act.Simulates R
              (if listed then do return u.connString :: (← Context.declared ctx room us)
                else Context.declared ctx (room + 1) us)
              (if listed then do return u.connString :: (← Context.declared ctx' room us)
                else Context.declared ctx' (room + 1) us) :=
            .ite ((ih room).bind fun _ => Act.simulates_pure _) (ih (room + 1))
          exact .ite ((h.isAvailable u).bind hrest) ((Act.simulates_pure true).bind hrest)

omit [Reader (ω × δ)] [Reader (ω' × δ)] h in
/-- Drivers that scan alike fill the room alike. -/
theorem simulates_scanned (hpolicy : ctx.intrusiveScan = ctx'.intrusiveScan)
    {ds : List (Driver ω δ)} {ds' : List (Driver ω' δ)}
    (hds : List.Forall₂ (Driver.Alike R) ds ds') (room : Nat) :
    Act.Simulates R (scanned ctx room ds) (scanned ctx' room ds') := by
  induction hds generalizing room with
  | nil => cases room <;> exact Act.simulates_pure []
  | cons hd _ ih =>
      cases room with
      | zero => exact Act.simulates_pure []
      | succ room =>
          unfold scanned mayScan
          rw [hpolicy, hd.scanType, hd.name]
          refine .ite (ih (room + 1)) ((hd.scan (room + 1)).bind fun found => ?_)
          refine (Act.simulates_log _ _ _).bind fun _ => ?_
          exact (ih _).bind fun rest => Act.simulates_pure _

/-- **Alike contexts list alike.** -/
theorem Alike.list (max : Nat) : Act.Simulates R (list ctx max) (list ctx' max) := by
  unfold Context.list
  rw [h.userDevices, h.autoscan]
  refine (h.declared max ctx'.userDevices).bind fun found => .ite (Act.simulates_pure found) ?_
  refine .ite ?_ ?_
  · exact .optionally (Act.simulates_log _ _ _) (Act.simulates_pure found)
  · exact (simulates_scanned h.intrusiveScan h.drivers _).bind fun _ => Act.simulates_pure _

end Context

end NearField
