import NearField.Pcsc.SharedContext

/-!
# Who shares a context

Somebody asks for a shared context, with whatever establishing it would end in, and holders are
dropped, in any order.  After any such run every cell counts those who hold it, all who hold one
hold the cell that was filled last, and that cell is the one remembered (`Sound`).  So a value is
established exactly when nobody holds one, and shared until then (`shared_while_held`).

The remembered cell is not held by the context.  Were it shared without a look at its count, a
value that is gone would be handed out; were a value established while another one is held, the
holders would not share one value.
-/

namespace NearField.Pcsc

variable {α ε : Type}

namespace SharedContext

variable {c : SharedContext α} {place : Nat} {cell : Cell α}

/-- The value in a cell. -/
def value? (c : SharedContext α) (place : Nat) : Option α := (c.cells[place]?).map Cell.value

/-- The values that were established, in order. -/
def values (c : SharedContext α) : List α := c.cells.map Cell.value

theorem live?_eq_some_iff : c.live? = some (place, cell) ↔
    c.slot? = some place ∧ c.cells[place]? = some cell ∧ cell.holders ≠ 0 := by
  simp only [live?, Option.bind_eq_bind, Option.bind_eq_some_iff, Option.ite_none_left_eq_some,
    Option.some.injEq, Prod.mk.injEq]
  refine ⟨?_, fun ⟨hslot, hcell, hheld⟩ => ⟨place, hslot, cell, hcell, hheld, rfl, rfl⟩⟩
  rintro ⟨_, hslot, _, hcell, hheld, rfl, rfl⟩
  exact ⟨hslot, hcell, hheld⟩

/-- Counting holders does not touch values. -/
theorem values_recount (f : Nat → Nat) : (c.recount place f).values = c.values := by
  refine List.ext_getElem? fun i => ?_
  rw [values, values, List.getElem?_map, List.getElem?_map, recount, List.getElem?_modify]
  cases c.cells[i]? with
  | none => rfl
  | some cell => by_cases h : place = i <;> simp [h]

theorem values_fill (x : α) : (c.fill x).values = c.values ++ [x] := by
  simp [values, fill]

end SharedContext

namespace Holders

variable {h : Holders α} {establish : Except ε α}

/-- The number of holders that have not been dropped. -/
def alive (h : Holders α) : Nat := h.held.countP Option.isSome

/-- What asking for a holder does: the remembered cell gets one more holder, or a new cell is
filled, or establishing fails and nothing changes. -/
theorem acquire_cases (h : Holders α) (establish : Except ε α) :
    (∃ place cell, h.context.live? = some (place, cell) ∧ h.acquire establish =
        (.ok cell.value, false, ⟨h.context.retain place, h.held ++ [some place]⟩)) ∨
      h.context.live? = none ∧
        ((∃ x, establish = .ok x ∧ h.acquire establish =
            (.ok x, true, ⟨h.context.fill x, h.held ++ [some h.context.cells.length]⟩)) ∨
          ∃ e, establish = .error e ∧ h.acquire establish = (.error e, true, h)) := by
  unfold acquire SharedContext.acquire
  cases h.context.live? with
  | some live => exact .inl ⟨live.1, live.2, rfl, rfl⟩
  | none =>
      cases establish with
      | ok x => exact .inr ⟨rfl, .inl ⟨x, rfl, rfl⟩⟩
      | error e => exact .inr ⟨rfl, .inr ⟨e, rfl, rfl⟩⟩

/-- What dropping does: the holder at a place goes, or there is none. -/
theorem drop_cases (h : Holders α) (i : Nat) :
    (∃ place, h.held[i]? = some (some place) ∧
        h.drop i = ⟨h.context.release place, h.held.set i none⟩) ∨ h.drop i = h := by
  unfold drop
  split
  · exact .inl ⟨_, ‹_›, rfl⟩
  · exact .inr rfl

/-! ## The cells and their holders -/

/-- Every holder has the cell that was filled last, which is remembered, and cells count their
holders. -/
structure Sound (h : Holders α) : Prop where
  last : ∀ place, h.context.slot? = some place ↔ place + 1 = h.context.cells.length
  shared : ∀ place, some place ∈ h.held → h.context.slot? = some place
  counted : ∀ place cell, h.context.cells[place]? = some cell →
    cell.holders = h.held.count (some place)

theorem sound_empty : Sound ({} : Holders α) where
  last _ := ⟨nofun, nofun⟩
  shared _ := nofun
  counted _ _ := nofun

namespace Sound

variable {place : Nat}

/-- The remembered cell is there, and counts all holders that are alive. -/
theorem exists_cell (hs : Sound h) (hslot : h.context.slot? = some place) :
    ∃ cell, h.context.cells[place]? = some cell ∧ cell.holders = h.alive := by
  have hlast := (hs.last place).mp hslot
  obtain ⟨cell, hcell⟩ : ∃ cell, h.context.cells[place]? = some cell :=
    ⟨_, List.getElem?_eq_getElem (by omega)⟩
  refine ⟨cell, hcell, (hs.counted place cell hcell).trans (List.countP_congr ?_)⟩
  rintro (_ | other) hmem
  · simp
  · obtain rfl : place = other := Option.some.inj (hslot.symm.trans (hs.shared other hmem))
    simp

theorem alive_eq_zero_of_slot (hs : Sound h) (hslot : h.context.slot? = none) : h.alive = 0 := by
  refine List.countP_eq_zero.mpr ?_
  rintro (_ | place) hmem
  · simp
  · rw [hs.shared place hmem] at hslot
    cases hslot

theorem users_eq (hs : Sound h) : h.context.users = h.alive := by
  rw [SharedContext.users, SharedContext.current?]
  cases hslot : h.context.slot? with
  | none => exact (hs.alive_eq_zero_of_slot hslot).symm
  | some place =>
      obtain ⟨cell, hcell, hholders⟩ := hs.exists_cell hslot
      simp [hcell, hholders]

/-- The remembered cell is shared exactly while anyone is alive. -/
theorem live?_eq_none_iff (hs : Sound h) : h.context.live? = none ↔ h.alive = 0 := by
  refine ⟨fun hlive => ?_, fun halive => ?_⟩
  · cases hslot : h.context.slot? with
    | none => exact hs.alive_eq_zero_of_slot hslot
    | some place =>
        obtain ⟨cell, hcell, hholders⟩ := hs.exists_cell hslot
        refine Decidable.byContradiction fun hne => ?_
        have hheld : cell.holders ≠ 0 := fun hz => hne (hholders.symm.trans hz)
        rw [SharedContext.live?_eq_some_iff.mpr ⟨hslot, hcell, hheld⟩] at hlive
        cases hlive
  · refine Option.eq_none_iff_forall_not_mem.mpr fun live hlive => ?_
    obtain ⟨hslot, hcell, hheld⟩ := SharedContext.live?_eq_some_iff.mp hlive
    obtain ⟨cell, hcell', hholders⟩ := hs.exists_cell hslot
    rw [hcell, Option.some.injEq] at hcell'
    exact hheld (hcell' ▸ hholders.trans halive)

/-- The last value that was established is in the remembered cell. -/
theorem value?_eq_getLast? (hs : Sound h) (hslot : h.context.slot? = some place) :
    h.context.value? place = h.context.values.getLast? := by
  have hlast := (hs.last place).mp hslot
  rw [SharedContext.value?, SharedContext.values, List.getLast?_eq_getElem?, List.getElem?_map,
    List.length_map, ← hlast, Nat.add_sub_cancel]

/-- Holders of the remembered cell come or go, and its count goes with them. -/
theorem recount (hs : Sound h) (hslot : h.context.slot? = some place) {held : List (Option Nat)}
    {f : Nat → Nat} (hcount : ∀ q, held.count (some q) =
      if place = q then f (h.held.count (some q)) else h.held.count (some q)) :
    Sound ⟨h.context.recount place f, held⟩ where
  last q := by
    rw [SharedContext.recount, List.length_modify]
    exact hs.last q
  shared q hmem := by
    by_cases hq : place = q
    · exact hq ▸ hslot
    · have hpos := List.count_pos_iff.mpr hmem
      rw [hcount, if_neg hq] at hpos
      exact hs.shared q (List.count_pos_iff.mp hpos)
  counted q cell hcell := by
    rw [SharedContext.recount, List.getElem?_modify] at hcell
    obtain ⟨old, hold, rfl⟩ := Option.map_eq_some_iff.mp hcell
    rw [hcount, ← hs.counted q old hold]
    by_cases hq : place = q
    · rw [if_pos hq, if_pos hq]
    · rw [if_neg hq, if_neg hq]

/-- A new cell is filled when nobody holds another one. -/
theorem fill (hs : Sound h) (halive : h.alive = 0) (x : α) :
    Sound ⟨h.context.fill x, h.held ++ [some h.context.cells.length]⟩ := by
  have hnobody (q : Nat) : some q ∉ h.held := fun hmem =>
    absurd (List.countP_eq_zero.mp halive (some q) hmem) (by simp)
  refine ⟨fun q => ?_, fun q hmem => ?_, fun q cell hcell => ?_⟩
  · simp [SharedContext.fill, eq_comm]
  · rcases List.mem_append.mp hmem with hmem | hmem
    · exact absurd hmem (hnobody q)
    · exact (List.mem_singleton.mp hmem).symm
  · rw [List.count_append, List.count_eq_zero.mpr (hnobody q), Nat.zero_add]
    have hcell : (h.context.cells ++ [⟨x, 1⟩])[q]? = some cell := hcell
    rw [List.getElem?_append] at hcell
    split at hcell
    · -- an old cell, which nobody holds
      rename_i hlt
      rw [hs.counted q cell hcell, List.count_eq_zero.mpr (hnobody q)]
      simp [Nat.ne_of_gt hlt]
    · rename_i hge
      obtain ⟨hq, rfl⟩ : q - h.context.cells.length = 0 ∧ ⟨x, 1⟩ = cell := by
        simpa [List.getElem?_singleton, and_comm] using hcell
      obtain rfl : q = h.context.cells.length := by omega
      simp

end Sound

/-! ## Runs -/

/-- Somebody asks for a holder, with what establishing a value would end in, or a holder is
dropped. -/
inductive Call (ε α : Type) where
  | acquire (establish : Except ε α)
  | drop (i : Nat)

/-- What a call leaves. -/
def step (h : Holders α) : Call ε α → Holders α
  | .acquire establish => (h.acquire establish).2.2
  | .drop i => h.drop i

/-- What calls leave that are made in order. -/
def after (h : Holders α) (calls : List (Call ε α)) : Holders α := calls.foldl step h

/-- The value that a call establishes, if it comes to that. -/
def established? (h : Holders α) : Call ε α → Option α
  | .acquire establish => if (h.acquire establish).2.1 then establish.toOption else none
  | .drop _ => none

/-- The values that calls establish, in order. -/
def established (h : Holders α) : List (Call ε α) → List α
  | [] => []
  | call :: calls => (h.established? call).toList ++ (h.step call).established calls

theorem Sound.step (hs : Sound h) (call : Call ε α) : Sound (h.step call) := by
  cases call with
  | acquire establish =>
      rcases h.acquire_cases establish with
        ⟨place, cell, hlive, heq⟩ | ⟨hlive, ⟨x, -, heq⟩ | ⟨e, -, heq⟩⟩
      · obtain ⟨hslot, -, -⟩ := SharedContext.live?_eq_some_iff.mp hlive
        rw [Holders.step, heq]
        refine hs.recount hslot fun q => ?_
        by_cases hq : place = q <;> simp [List.count_append, hq]
      · rw [Holders.step, heq]
        exact hs.fill (hs.live?_eq_none_iff.mp hlive) x
      · rw [Holders.step, heq]
        exact hs
  | drop i =>
      rcases h.drop_cases i with ⟨place, hplace, heq⟩ | heq
      · obtain ⟨hi, hplace⟩ := List.getElem?_eq_some_iff.mp hplace
        have hmem : some place ∈ h.held := hplace ▸ List.getElem_mem hi
        rw [Holders.step, heq]
        refine hs.recount (hs.shared place hmem) fun q => ?_
        by_cases hq : place = q <;> simp [List.count_set hi, hplace, hq]
      · rw [Holders.step, heq]
        exact hs

theorem Sound.after (hs : Sound h) (calls : List (Call ε α)) : Sound (h.after calls) := by
  induction calls generalizing h with
  | nil => exact hs
  | cons call calls ih => exact ih (hs.step call)

theorem values_step (h : Holders α) (call : Call ε α) :
    (h.step call).context.values = h.context.values ++ (h.established? call).toList := by
  cases call with
  | acquire establish =>
      rcases h.acquire_cases establish with
        ⟨place, cell, -, heq⟩ | ⟨-, ⟨x, rfl, heq⟩ | ⟨e, rfl, heq⟩⟩
      · rw [step, established?, heq]
        exact (SharedContext.values_recount _).trans (List.append_nil _).symm
      · rw [step, established?, heq]
        exact SharedContext.values_fill x
      · rw [step, established?, heq]
        exact (List.append_nil _).symm
  | drop i =>
      rw [step, established?, Option.toList_none, List.append_nil]
      rcases h.drop_cases i with ⟨place, -, heq⟩ | heq
      · rw [heq]
        exact SharedContext.values_recount _
      · rw [heq]

/-- The cells hold the values that were established. -/
theorem values_after (h : Holders α) (calls : List (Call ε α)) :
    (h.after calls).context.values = h.context.values ++ h.established calls := by
  induction calls generalizing h with
  | nil => exact (List.append_nil _).symm
  | cons call calls ih =>
      rw [established, ← List.append_assoc, ← values_step]
      exact ih (h.step call)

/-- While nobody is alive establishing is tried, and decides. -/
theorem Sound.acquire_unheld (hs : Sound h) (halive : h.alive = 0) (establish : Except ε α) :
    (h.acquire establish).1 = establish ∧ (h.acquire establish).2.1 = true := by
  rcases h.acquire_cases establish with
    ⟨place, cell, hlive, -⟩ | ⟨-, ⟨x, rfl, heq⟩ | ⟨e, rfl, heq⟩⟩
  · rw [hs.live?_eq_none_iff.mpr halive] at hlive
    cases hlive
  · rw [heq]
    exact ⟨rfl, rfl⟩
  · rw [heq]
    exact ⟨rfl, rfl⟩

/-- While anyone is alive establishing is not tried, and the value that was established last is
handed out. -/
theorem Sound.acquire_held (hs : Sound h) (halive : h.alive ≠ 0) (establish : Except ε α) :
    (∃ x, h.context.values.getLast? = some x ∧ (h.acquire establish).1 = .ok x) ∧
      (h.acquire establish).2.1 = false := by
  rcases h.acquire_cases establish with ⟨place, cell, hlive, heq⟩ | ⟨hlive, -⟩
  · obtain ⟨hslot, hcell, -⟩ := SharedContext.live?_eq_some_iff.mp hlive
    rw [heq, ← hs.value?_eq_getLast? hslot, SharedContext.value?, hcell]
    exact ⟨⟨cell.value, rfl, rfl⟩, rfl⟩
  · exact absurd (hs.live?_eq_none_iff.mp hlive) halive

/-- Everybody who is alive holds the value that was established last. -/
theorem Sound.value?_of_mem (hs : Sound h) {place : Nat} (hmem : some place ∈ h.held) :
    ∃ x, h.context.value? place = some x ∧ h.context.values.getLast? = some x := by
  have hslot := hs.shared place hmem
  obtain ⟨cell, hcell, -⟩ := hs.exists_cell hslot
  have hvalue : h.context.value? place = some cell.value := by
    rw [SharedContext.value?, hcell]
    rfl
  exact ⟨cell.value, hvalue, (hs.value?_eq_getLast? hslot).symm.trans hvalue⟩

/-- **A value is established exactly when nobody holds one, and shared until the last holder is
dropped.**  After any calls the users are the holders that are alive, who all hold the one
remembered cell, with the value that was established last.  Whoever asks next is handed that
value, or, if nobody is alive, what establishing ends in; a failure changes nothing.  So once the
last holder is dropped the next one has a value established anew. -/
theorem shared_while_held (calls : List (Call ε α)) (establish : Except ε α) :
    let h : Holders α := after {} calls
    let last? := established {} calls |>.getLast?
    let asked := h.acquire establish
    h.context.users = h.alive ∧
      (∀ place, some place ∈ h.held → h.context.slot? = some place ∧
        ∃ x, h.context.value? place = some x ∧ last? = some x) ∧
      (asked.2.1 = true ↔ h.alive = 0) ∧
      (h.alive = 0 → asked.1 = establish) ∧
      (h.alive ≠ 0 → ∃ x, last? = some x ∧ asked.1 = .ok x) ∧
      (∀ e, asked.1 = .error e → asked.2.2 = h) ∧
      ∀ i, (h.drop i).alive = 0 → ((h.drop i).acquire establish).1 = establish ∧
        ((h.drop i).acquire establish).2.1 = true := by
  intro h last? asked
  have hs : Sound h := sound_empty.after calls
  have hlast : h.context.values.getLast? = last? :=
    congrArg List.getLast? (values_after {} calls)
  -- all of it is read off the invariant, which holds after any calls
  refine ⟨hs.users_eq, fun place hmem => ?_, ?_, fun halive => ?_, fun halive => ?_,
    fun e he => ?_, fun i halive => ?_⟩
  · rw [← hlast]
    exact ⟨hs.shared place hmem, hs.value?_of_mem hmem⟩
  · refine ⟨fun htried => Decidable.byContradiction fun halive => ?_, fun halive => ?_⟩
    · exact absurd (htried.symm.trans (hs.acquire_held halive establish).2) nofun
    · exact (hs.acquire_unheld halive establish).2
  · exact (hs.acquire_unheld halive establish).1
  · rw [← hlast]
    exact (hs.acquire_held halive establish).1
  · rcases h.acquire_cases establish with
      ⟨place, cell, -, heq⟩ | ⟨-, ⟨x, -, heq⟩ | ⟨e', -, heq⟩⟩
    · exact absurd (he.symm.trans (congrArg Prod.fst heq)) nofun
    · exact absurd (he.symm.trans (congrArg Prod.fst heq)) nofun
    · exact congrArg (·.2.2) heq
  · exact (hs.step (.drop i : Call ε α)).acquire_unheld halive establish

/-- A value is shared, dropped by both holders in the order they came, and established anew; that
fails once and leaves no trace. -/
example :
    let calls : List (Call String Nat) :=
      [.acquire (.ok 7), .acquire (.ok 8), .drop 0, .drop 1, .acquire (.error "down")]
    let h := after {} calls
    established {} calls = [7] ∧ h.context.users = 0 ∧ h.held = [none, none] ∧
      (h.acquire (.ok 9 : Except String Nat)).1 = .ok 9 :=
  ⟨rfl, rfl, rfl, rfl⟩

end Holders

end NearField.Pcsc
