import NearField.Proofs.Context.Handling

/-!
# Every reader is closed once

Somebody opens readers, lists them, makes calls of the devices that were opened, and closes or drops
them, in any order, with any contexts and any drivers (`Holding.Step`).  A device stands in a slot
of its own until its reader is released; what is done with an empty slot does nothing.  The same run
in contexts that number their readers shows what becomes of each of them (`Holding.step_numbered`):
one whose device stands in a slot was used and not closed, and any other was closed once, whether
by a device that was let go, by a probe, or because its name was too long
(`Holding.closed_exactly_once`).  What only looks at a device, as its description does, takes one
that stands in a slot, and is no step.
-/

namespace NearField

variable {ω δ : Type}

/-- A world, and the devices in it that somebody holds. -/
structure Holding (ω δ : Type) where
  world : ω
  slots : List (Option (Device δ)) := []

namespace Holding

/-- What somebody does who holds devices. -/
inductive Step (ω δ : Type) : Type 1 where
  /-- Opens a reader into a new slot. -/
  | opens (ctx : Context ω δ) (text? : Option String)
  | lists (ctx : Context ω δ) (max : Nat)
  | calls (slot : Nat) {α : Type} (c : Device.Call α)
  | closes (slot : Nat)
  | drops (slot : Nat)

/-- The device in a slot. -/
def device? (h : Holding ω δ) (slot : Nat) : Option (Device δ) := h.slots[slot]?.join

section Run

variable [Reader (ω × δ)]

/-- Takes the device out of a slot, if there is one, and closes it. -/
def release (h : Holding ω δ) (slot : Nat) : Holding ω δ :=
  match h.device? slot with
  | none => h
  | some d => ⟨((Context.closeDevice d : Act Empty ω Unit) h.world).state, h.slots.set slot none⟩

/-- Makes a call of the device in a slot, if there is one. -/
def call {α : Type} (h : Holding ω δ) (slot : Nat) (c : Device.Call α) : Holding ω δ :=
  match h.device? slot with
  | none => h
  | some d =>
    let d := (c.run (d.map fun b => (h.world, b))).state
    ⟨d.backend.1, h.slots.set slot (some (d.map Prod.snd))⟩

/-- Takes a step.  Closing a device drops it as well, which finds nothing left to release. -/
def step (h : Holding ω δ) : Step ω δ → Holding ω δ
  | .opens ctx text? =>
    let o := Context.openReader ctx text? h.world
    match o.result with
    | .ok d => ⟨o.state, h.slots ++ [some d]⟩
    | .error _ => { h with world := o.state }
  | .lists ctx max => { h with world := (Context.list ctx max h.world).state }
  | .calls slot c => h.call slot c
  | .closes slot => (h.release slot).release slot
  | .drops slot => h.release slot

/-- Takes steps in order. -/
def after (h : Holding ω δ) : List (Step ω δ) → Holding ω δ
  | [] => h
  | s :: steps => (h.step s).after steps

/-- Drops all devices. -/
def letGo (h : Holding ω δ) : Holding ω δ := h.after ((List.range h.slots.length).map .drops)

/-! ## Slots -/

variable {h : Holding ω δ} {d : Device δ} {slot other : Nat}

omit [Reader (ω × δ)] in
/-- A device stands between those in the slots before and behind its own. -/
theorem slots_of_device? (hd : h.device? slot = some d) :
    ∃ before behind, h.slots = before ++ some d :: behind ∧
      ∀ d?, h.slots.set slot d? = before ++ d? :: behind := by
  obtain ⟨hlt, hslot⟩ := List.getElem?_eq_some_iff.mp (Option.join_eq_some_iff.mp hd)
  refine ⟨h.slots.take slot, h.slots.drop (slot + 1), ?_, fun d? => ?_⟩
  · rw [← hslot, ← List.drop_eq_getElem_cons hlt, List.take_append_drop]
  · rw [List.set_eq_take_append_cons_drop, if_pos hlt]

/-- A slot whose reader is released is empty, and the others are as they were. -/
theorem device?_release (h : Holding ω δ) (slot other : Nat) :
    (h.release slot).device? other = if other = slot then none else h.device? other := by
  unfold release
  by_cases hsame : other = slot
  · subst hsame
    rw [if_pos rfl]
    cases hd : h.device? other with
    | none => exact hd
    | some d =>
        rw [device?, List.getElem?_set, if_pos rfl]
        split <;> rfl
  · rw [if_neg hsame]
    cases hd : h.device? slot with
    | none => rfl
    | some d => rw [device?, List.getElem?_set_ne (Ne.symm hsame), device?]

/-- Dropping empties the slots that are dropped. -/
theorem device?_after_drops (h : Holding ω δ) (slots : List Nat) (other : Nat) :
    (h.after (slots.map .drops)).device? other =
      if other ∈ slots then none else h.device? other := by
  induction slots generalizing h with
  | nil => simp [after]
  | cons slot slots ih =>
      rw [List.map_cons, after, ih, step, device?_release]
      by_cases hmem : other ∈ slots
      · rw [if_pos hmem, if_pos (List.mem_cons_of_mem _ hmem)]
      · simp only [if_neg hmem, List.mem_cons, or_iff_left hmem]

/-- Nobody holds a device once all are dropped. -/
theorem device?_letGo (h : Holding ω δ) (slot : Nat) : h.letGo.device? slot = none := by
  rw [letGo, device?_after_drops]
  by_cases hlt : slot < h.slots.length
  · rw [if_pos (List.mem_range.mpr hlt)]
  · rw [if_neg (mt List.mem_range.mp hlt), device?, List.getElem?_eq_none (Nat.le_of_not_lt hlt)]
    rfl

end Run

/-! ## Numbered readers -/

/-- The step in contexts that number their readers. -/
def Step.numbered : Step ω δ → Step (Noted Handling ω) (Numbered δ)
  | .opens ctx text? => .opens ctx.numbered text?
  | .lists ctx max => .lists ctx.numbered max
  | .calls slot c => .calls slot c
  | .closes slot => .closes slot
  | .drops slot => .drops slot

/-- What is held, without notes and numbers. -/
def unnumbered (h : Holding (Noted Handling ω) (Numbered δ)) : Holding ω δ :=
  ⟨h.world.world, h.slots.map (Option.map Device.unnumbered)⟩

/-- The readers of the devices that stand in slots. -/
def readers (slots : List (Option (Device (Numbered δ)))) : List Nat :=
  slots.filterMap (Option.map Device.number)

section Numbered

variable {h : Holding (Noted Handling ω) (Numbered δ)} {d : Device (Numbered δ)} {slot : Nat}

theorem device?_unnumbered (h : Holding (Noted Handling ω) (Numbered δ)) (slot : Nat) :
    h.unnumbered.device? slot = (h.device? slot).map Device.unnumbered := by
  rw [device?, device?, unnumbered, List.getElem?_map]
  cases h.slots[slot]? <;> rfl

theorem mem_readers {number : Nat} :
    number ∈ readers h.slots ↔ ∃ slot d, h.device? slot = some d ∧ d.number = number := by
  simp only [readers, List.mem_filterMap, Option.map_eq_some_iff]
  refine ⟨?_, ?_⟩
  · rintro ⟨_, hd, d, rfl, hnumber⟩
    obtain ⟨slot, hslot⟩ := List.mem_iff_getElem?.mp hd
    exact ⟨slot, d, Option.join_eq_some_iff.mpr hslot, hnumber⟩
  · rintro ⟨slot, d, hd, hnumber⟩
    exact ⟨some d, List.mem_of_getElem? (Option.join_eq_some_iff.mp hd), d, rfl, hnumber⟩

/-- Filling a slot or emptying it changes the readers that are held by its own. -/
theorem readers_set (hd : h.device? slot = some d) :
    ∃ others, (readers h.slots).Perm (d.number :: others) ∧
      ∀ d?, (readers (h.slots.set slot d?)).Perm ((d?.map Device.number).toList ++ others) := by
  obtain ⟨before, behind, hslots, hset⟩ := slots_of_device? hd
  have hreaders (d? : Option (Device (Numbered δ))) : (readers (before ++ d? :: behind)).Perm
      ((d?.map Device.number).toList ++ (readers before ++ readers behind)) := by
    rw [readers, List.filterMap_append]
    cases d? with
    | none => exact List.Perm.refl _
    | some d => exact List.perm_middle
  refine ⟨_, hslots ▸ hreaders (some d), fun d? => hset d? ▸ hreaders d?⟩

/-- The notes are in order for those who hold devices. -/
def Orderly (h : Holding (Noted Handling ω) (Numbered δ)) : Prop :=
  Handling.Kept (readers h.slots) h.world.notes

variable [Reader (ω × δ)]

/-- A reader that is released is closed, and in nobody's hands any more. -/
theorem release_numbered (hh : h.Orderly) (slot : Nat) :
    (h.release slot).unnumbered = h.unnumbered.release slot ∧ (h.release slot).Orderly := by
  unfold release
  rw [device?_unnumbered]
  cases hd : h.device? slot with
  | none => exact ⟨rfl, hh⟩
  | some d =>
      obtain ⟨others, hheld, hset⟩ := readers_set hd
      obtain ⟨-, hworld, hkept⟩ := Context.minds_closeDevice d others h.world (hh.perm hheld)
      exact ⟨congrArg₂ Holding.mk hworld List.map_set, Handling.Kept.perm hkept (hset none).symm⟩

/-- A reader that is called is used by the one who holds it. -/
theorem call_numbered {α : Type} (hh : h.Orderly) (slot : Nat) (c : Device.Call α) :
    (h.call slot c).unnumbered = h.unnumbered.call slot c ∧ (h.call slot c).Orderly := by
  unfold call
  rw [device?_unnumbered]
  cases hd : h.device? slot with
  | none => exact ⟨rfl, hh⟩
  | some d =>
      obtain ⟨others, hheld, hset⟩ := readers_set hd
      have hmem : d.number ∈ readers h.slots := hheld.mem_iff.mpr List.mem_cons_self
      obtain ⟨-, halike⟩ := Device.simulates_call (Numbered.callAlike hmem) c
        (d.map fun b => (h.world, b)) (d.unnumbered.map fun b => (h.world.world, b))
        ⟨⟨rfl, hh, rfl⟩, rfl⟩
      obtain ⟨hnumber, hkept, hpart⟩ := halike.1
      have hdevice := halike.map_eq_map (f := fun b => b.2.handle) (g := Prod.snd)
        (congrArg Prod.snd hpart)
      refine ⟨congrArg₂ Holding.mk (congrArg Prod.fst hpart)
        (List.map_set.trans (congrArg _ (congrArg some hdevice))), ?_⟩
      refine Handling.Kept.perm hkept (hheld.trans (.trans ?_ (hset (some _)).symm))
      rw [Option.map_some, Option.toList_some]
      exact hnumber ▸ List.Perm.refl _

/-- A reader that is opened is in the hands of the one who opened it. -/
theorem opens_numbered (hh : h.Orderly) (ctx : Context ω δ) (text? : Option String) :
    (h.step (.opens ctx.numbered text?)).unnumbered = h.unnumbered.step (.opens ctx text?) ∧
      (h.step (.opens ctx.numbered text?)).Orderly := by
  obtain ⟨hresult, hworld, hkept⟩ := Context.minds_openReader ctx text? (readers h.slots) h.world hh
  rcases (Context.openReader ctx.numbered text?).yields_or_fails h.world with
    ⟨d, hopen, -⟩ | ⟨e, hopen, -⟩
  · rw [hopen] at hresult hkept
    have hplain : (Context.openReader ctx text? h.unnumbered.world).result = .ok d.unnumbered :=
      hresult.symm
    have hreaders : ([d.number] ++ readers h.slots).Perm (readers (h.slots ++ [some d])) := by
      rw [readers, readers, List.filterMap_append]
      exact List.perm_append_comm
    simp only [step, hopen, hplain]
    exact ⟨congrArg₂ Holding.mk hworld List.map_append, hkept.perm hreaders⟩
  · rw [hopen] at hresult hkept
    have hplain : (Context.openReader ctx text? h.unnumbered.world).result = .error e :=
      hresult.symm
    simp only [step, hopen, hplain]
    exact ⟨congrArg₂ Holding.mk hworld rfl, hkept⟩

/-- **A step in numbered contexts** is the step itself, and keeps the notes in order. -/
theorem step_numbered (hh : h.Orderly) (s : Step ω δ) :
    (h.step s.numbered).unnumbered = h.unnumbered.step s ∧ (h.step s.numbered).Orderly := by
  cases s with
  | opens ctx text? => exact opens_numbered hh ctx text?
  | lists ctx max =>
      obtain ⟨-, hworld, hkept⟩ := Context.minds_list ctx max (readers h.slots) h.world hh
      refine ⟨congrArg₂ Holding.mk hworld rfl, ?_⟩
      cases hlist : (Context.list ctx.numbered max h.world).result with
      | error e => exact e.elim
      | ok found =>
          rw [hlist] at hkept
          exact hkept
  | calls slot c => exact call_numbered hh slot c
  | drops slot => exact release_numbered hh slot
  | closes slot =>
      obtain ⟨hplain, hh'⟩ := release_numbered hh slot
      -- a reader that is closed is dropped behind that, and nothing is closed again
      obtain ⟨hplain', hh''⟩ := release_numbered hh' slot
      exact ⟨hplain'.trans (by rw [hplain]; rfl), hh''⟩

/-- **A run in numbered contexts** is the run itself, and keeps the notes in order. -/
theorem after_numbered (hh : h.Orderly) (steps : List (Step ω δ)) :
    (h.after (steps.map .numbered)).unnumbered = h.unnumbered.after steps ∧
      (h.after (steps.map .numbered)).Orderly := by
  induction steps generalizing h with
  | nil => exact ⟨rfl, hh⟩
  | cons s steps ih =>
      obtain ⟨hplain, hh'⟩ := step_numbered hh s
      obtain ⟨hplain', hh''⟩ := ih hh'
      exact ⟨hplain'.trans (by rw [hplain]; rfl), hh''⟩

/-- Whoever drops all devices in numbered contexts drops all devices. -/
theorem letGo_numbered (hh : h.Orderly) :
    h.letGo.unnumbered = h.unnumbered.letGo ∧ h.letGo.Orderly := by
  have hdrops := after_numbered hh ((List.range h.slots.length).map .drops)
  have hlength : h.unnumbered.slots.length = h.slots.length := List.length_map _
  rw [List.map_map] at hdrops
  rw [letGo, letGo, hlength]
  exact hdrops

end Numbered

open Handling

/-- **Every reader that a driver hands out is closed exactly once, and not used after that.**
Somebody opens readers, lists them, makes calls, and closes and drops devices, with any contexts and
in any order.  The same run in numbered contexts leaves the same, and its notes are in order.  A
reader whose device stands in a slot was handed out and nothing but used since; any other was handed
out, used, and then closed once.  So all of them are once the remaining devices are dropped. -/
theorem closed_exactly_once [Reader (ω × δ)] (w : ω) (steps : List (Step ω δ)) :
    let run := after ⟨w, []⟩ steps
    let seen := after ⟨⟨w, []⟩, []⟩ (steps.map Step.numbered)
    (seen.unnumbered = run ∧ seen.letGo.unnumbered = run.letGo) ∧
      (∀ x ∈ seen.world.notes,
        (InUse x.number seen.world.notes ∧
            ∃ slot d, seen.device? slot = some d ∧ d.number = x.number) ∨
          (ClosedOnce x.number seen.world.notes ∧
            ¬ ∃ slot d, seen.device? slot = some d ∧ d.number = x.number)) ∧
      ∀ x ∈ seen.letGo.world.notes, ClosedOnce x.number seen.letGo.world.notes := by
  intro run seen
  obtain ⟨hrun, hseen⟩ := after_numbered (h := ⟨⟨w, []⟩, []⟩) kept_nil steps
  obtain ⟨hletGo, hgone⟩ := letGo_numbered hseen
  refine ⟨⟨hrun, hletGo.trans (congrArg letGo hrun)⟩, fun x hx => ?_, fun x hx => ?_⟩
  · rw [← mem_readers]
    by_cases hheld : x.number ∈ readers seen.slots
    · exact .inl ⟨hseen.inUse x.number hheld, hheld⟩
    · exact .inr ⟨hseen.closedOnce hx hheld, hheld⟩
  · refine hgone.closedOnce hx fun hheld => ?_
    obtain ⟨slot, d, hd, -⟩ := mem_readers.mp hheld
    rw [device?_letGo] at hd
    cases hd

/-- A reader is opened, another one probed, and the first is used and closed; then nothing is left
to be called. -/
example :
    letI : Reader (Unit × BareReader) := {}
    let c : ConnString := ⟨"pcsc", by decide, by decide⟩
    let driver : Driver Unit BareReader := { name := "pcsc", claim := fun _ => pure ⟨"reader", {}⟩ }
    let ctx : Context Unit BareReader :=
      { registry := ⟨[driver]⟩, userDevices := [⟨"desk", c, true⟩] }
    let steps : List (Step Unit BareReader) :=
      [.opens ctx (some "pcsc"), .lists ctx 1, .calls 0 .idle, .closes 0, .calls 0 .idle, .drops 0]
    (after ⟨⟨(), []⟩, []⟩ (steps.map Step.numbered)).world.notes =
      [.handed 0, .handed 1, .closed 1, .used 0, .closed 0] :=
  rfl

end Holding

end NearField
