import NearField.Proofs.Device.Bracket
import NearField.Proofs.Device.Call

/-!
# Devices over readers that are alike

When the readers of two devices answer alike to the calls that a listing makes, the listings end
alike (`simulates_listPassive`).
-/

namespace NearField.Device

variable {σ τ α : Type} {R : σ → τ → Prop}

/-- The devices are the same but for their readers, and those are related. -/
def Alike (R : σ → τ → Prop) (d : Device σ) (d' : Device τ) : Prop :=
  R d.backend d'.backend ∧ d.map (fun _ => ()) = d'.map fun _ => ()

/-- Devices are alike in the reader that one sees behind the other when they are the same but
for what is seen. -/
theorem alike_iff_map_eq {f : σ → τ} {d : Device σ} {d' : Device τ} :
    Alike (fun s t => f s = t) d d' ↔ d.map f = d' := by
  refine ⟨fun ⟨hs, hd⟩ => ?_, ?_⟩
  · obtain ⟨name, connString, driver, backend, lastError?, infiniteSelect⟩ := d
    cases d'
    cases hs
    cases hd
    rfl
  · rintro rfl
    exact ⟨rfl, rfl⟩

/-- Devices that are alike look the same where their readers do. -/
theorem Alike.map_eq_map {ν : Type} {f : σ → ν} {g : τ → ν} {d : Device σ} {d' : Device τ}
    (h : Alike R d d') (hfg : f d.backend = g d'.backend) : d.map f = d'.map g := by
  have hrest := congrArg (fun u : Device Unit => { u with backend := f d.backend }) h.2
  rw [hfg] at hrest
  exact (congrArg (fun b => { d with backend := b }) hfg).trans hrest

/-- Devices that are alike keep the same about unbounded selection. -/
theorem Alike.infiniteSelect_eq {d : Device σ} {d' : Device τ} (h : Alike R d d') :
    d.infiniteSelect = d'.infiniteSelect :=
  show (d.map fun _ => ()).infiniteSelect = (d'.map fun _ => ()).infiniteSelect from
    congrArg infiniteSelect h.2

/-- What is handed to the reader keeps devices alike, and leaves the same last error. -/
theorem simulates_dispatch {a : Op σ α} {b : Op τ α} (h : Act.Simulates R a b) :
    Act.Simulates (Alike R) (dispatch a) (dispatch b) := by
  intro d d' hd
  obtain ⟨hresult, hstate⟩ := h _ _ hd.1
  rw [(dispatch_run a d).1, (dispatch_run a d).2, (dispatch_run b d').1, (dispatch_run b d').2,
    hresult]
  exact ⟨rfl, hstate, congrArg (fun u : Device Unit =>
    { u with lastError? := failure? (b d'.backend).result }) hd.2⟩

theorem simulates_fail (e : Error) :
    Act.Simulates (Alike R) (fail e : Op (Device σ) α) (fail e) :=
  simulates_dispatch (Act.simulates_throw e)

/-- A message does not tell devices apart. -/
theorem simulates_debug (message : String) :
    Act.Simulates (Alike R) (debug message) (debug message) :=
  Act.simulates_log _ _ _

theorem simulates_cleared :
    Act.Simulates (ε := Error) (Alike R) (modify cleared) (modify cleared) :=
  Act.simulates_modify fun _ _ hd => ⟨hd.1, congrArg cleared hd.2⟩

/-- Readers answer alike to the calls that a listing makes. -/
structure ListAlike [Reader σ] [Reader τ] (R : σ → τ → Prop) : Prop where
  families : ∀ mode, Act.Simulates R (Reader.families mode) (Reader.families mode)
  baudRates : ∀ mode f, Act.Simulates R (Reader.baudRates mode f) (Reader.baudRates mode f)
  setBool : ∀ p enable, Act.Simulates R (Reader.setBool p enable) (Reader.setBool p enable)
  selectPassive : ∀ m data,
    Act.Simulates R (Reader.selectPassive m data) (Reader.selectPassive m data)
  deselect : Act.Simulates R Reader.deselect Reader.deselect

variable [Reader σ] [Reader τ]

/-- A switch that both readers take is kept track of on both sides. -/
theorem simulates_setBool (h : ListAlike R) (p : Property) (enable : Bool) :
    Act.Simulates (Alike R) (setBool p enable) (setBool p enable) := by
  refine (simulates_debug _).bind fun _ => ?_
  refine (simulates_dispatch (h.setBool p enable)).bind fun _ => ?_
  refine .ite (Act.simulates_modify fun d d' hd => ⟨hd.1, ?_⟩) (Act.simulates_pure _)
  exact congrArg (fun u : Device Unit => { u with infiniteSelect := enable }) hd.2

/-- A modulation is refused on both sides or on neither. -/
theorem simulates_validate (h : ListAlike R) (mode : Mode) (m : Modulation) :
    Act.Simulates (Alike R) (validate mode m) (validate mode m) := by
  refine (simulates_dispatch (h.families mode)).bind fun fs => ?_
  refine .ite ((simulates_debug _).bind fun _ => (simulates_fail _).bind fun _ => ?_) ?_
  all_goals
    refine (simulates_dispatch (h.baudRates mode m.family)).bind fun rs => ?_
    exact .ite ((simulates_debug _).bind fun _ => simulates_fail _) (Act.simulates_pure _)

/-- A selection asks the readers for no more than a listing does. -/
theorem simulates_selectPassive (h : ListAlike R) (m : Modulation) (data : Bytes) :
    Act.Simulates (Alike R) (selectPassive m data) (selectPassive m data) :=
  (simulates_validate h _ m).bind fun _ => simulates_dispatch (h.selectPassive m _)

/-- The loops stop at the same answer, with the same targets found. -/
theorem simulates_collect (h : ListAlike R) (m : Modulation) (room : Nat) (found : List Target) :
    Act.Simulates (Alike R) (collect m room found) (collect m room found) := by
  induction room generalizing found with
  | zero => exact Act.simulates_pure _
  | succ room ih =>
      refine (simulates_selectPassive h m []).attempt.bind fun r => ?_
      rcases r with e | _ | t
      · exact Act.simulates_pure _
      · exact Act.simulates_pure _
      · refine .ite (Act.simulates_pure _) (.ite (Act.simulates_pure _) ?_)
        refine (simulates_dispatch h.deselect).attempt.bind fun q => ?_
        cases q with
        | error e => exact (simulates_debug _).bind fun _ => ih _
        | ok => exact ih _

/-- Unbounded selection is put back on both sides or on neither. -/
theorem simulates_switchBack (h : ListAlike R) (otherwise enable : Bool) :
    Act.Simulates (Alike R) (switchBack otherwise enable) (switchBack otherwise enable) :=
  .ite (simulates_setBool h _ enable) (Act.simulates_pure _)

/-- **Listings are alike** over readers that are. -/
theorem simulates_listPassive (h : ListAlike R) (m : Modulation) (max : Nat) :
    Act.Simulates (Alike R) (listPassive m max) (listPassive m max) := by
  by_cases hmax : max = 0
  · subst hmax
    exact Act.simulates_pure _
  · rw [listPassive_eq hmax, listPassive_eq hmax]
    refine simulates_cleared.bind fun _ => .get_bind fun d d' hd => ?_
    refine (simulates_setBool h _ false).bind fun _ => ?_
    refine (simulates_collect h m max []).bind fun r => ?_
    rw [hd.infiniteSelect_eq]
    exact (simulates_switchBack h _ true).bind fun _ => Act.simulates_ofExcept _

end NearField.Device
