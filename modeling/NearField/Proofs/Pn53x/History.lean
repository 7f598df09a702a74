import NearField.Proofs.Pn53x.Call

/-!
# The steps of a run

Most members of the family are polled by selecting one modulation after the other, with unbounded
selection switched off.  Such a poll may have found a target and fail behind it.  So a run of
operations is looked at in its steps (`history`), each with the chip that it is taken on: the
switches and selections of such a poll, and every other operation by itself.  The steps lead where
the operations lead (`after_steps`).
-/

namespace NearField.Pn53x.Chip

variable {τ : Type} [ChipLink τ]

/-! ## Polls by selecting -/

/-- The selections that a round of a poll makes. -/
def roundSteps : List Modulation → Chip τ → List Operation
  | [], _ => []
  | m :: ms, c => .call ⟨_, .selectPassive m []⟩ ::
      match (selectPassive m [] c).result with
      | .ok none | .error .timeout => roundSteps ms (selectPassive m [] c).state
      | _ => []

/-- The selections that the rounds of a poll make. -/
def roundsSteps (ms : List Modulation) : Nat → Chip τ → List Operation
  | 0, _ => []
  | n + 1, c => roundSteps ms c ++
      match (pollOnce ms c).result with
      | .ok none => roundsSteps ms n (pollOnce ms c).state
      | _ => []

/-- Switches unbounded selection. -/
def switch (enable : Bool) : Operation := .call ⟨_, .setBool .infiniteSelect enable⟩

/-- The steps of a poll by selecting. -/
def pollSteps (ms : List Modulation) (pollNr : UInt8) (c : Chip τ) : List Operation :=
  if c.infiniteSelect then
    switch false :: match (setBool .infiniteSelect false c).result with
      | .error _ => []
      | .ok _ =>
        roundsSteps ms (rounds pollNr) (setBool .infiniteSelect false c).state ++ [switch true]
  else roundsSteps ms (rounds pollNr) c

/-- A poll is made by selecting, unless it is refused or the chip polls by itself. -/
def Selecting (ms : List Modulation) (pollNr period : UInt8) (c : Chip τ) : Prop :=
  (!ms.isEmpty && pollNr != 0 && period != 0) = true ∧ c.kind ≠ .pn532

instance (ms : List Modulation) (pollNr period : UInt8) (c : Chip τ) :
    Decidable (Selecting ms pollNr period c) := inferInstanceAs (Decidable (_ ∧ _))

/-- The steps of an operation, which are those of a poll by selecting, or the operation itself. -/
def Operation.steps : Operation → Chip τ → List Operation
  | .call ⟨_, .pollTarget ms pollNr period⟩, c =>
    if Selecting ms pollNr period c then pollSteps ms pollNr c
    else [.call ⟨_, .pollTarget ms pollNr period⟩]
  | op, _ => [op]

theorem after_cons (op : Operation) (ops : List Operation) (c : Chip τ) :
    after (op :: ops) c = after ops (op.run c) := rfl

/-- One run behind another. -/
theorem after_append (ops ops' : List Operation) (c : Chip τ) :
    after (ops ++ ops') c = after ops' (after ops c) := List.foldl_append

/-- A round leads where its selections lead. -/
theorem after_roundSteps (ms : List Modulation) (c : Chip τ) :
    after (roundSteps ms c) c = (pollOnce ms c).state := by
  induction ms generalizing c with
  | nil => rfl
  | cons m ms ih =>
      rw [pollOnce, (Act.attempt_bind _ _ _).2, roundSteps, after_cons]
      change after _ (selectPassive m [] c).state = _
      cases (selectPassive m [] c).result with
      | ok found =>
          cases found with
          | none => exact ih _
          | some t => rfl
      | error e => cases e <;> first | exact ih _ | rfl

/-- Rounds lead where their selections lead. -/
theorem after_roundsSteps (ms : List Modulation) (n : Nat) (c : Chip τ) :
    after (roundsSteps ms n c) c = (pollRounds ms n c).state := by
  induction n generalizing c with
  | zero => rfl
  | succ n ih =>
      rw [roundsSteps, after_append, after_roundSteps]
      rcases (pollOnce ms).yields_or_fails c with ⟨found, h⟩ | ⟨e, h⟩
      · rw [pollRounds, (h.bind _).2, h.1]
        cases found with
        | none => exact ih _
        | some t => rfl
      · rw [pollRounds, (h.bind _).2, h.1]
        rfl

/-- A poll leads where its switches and selections lead, also where it fails behind its last
selection. -/
theorem after_pollSteps (ms : List Modulation) (pollNr : UInt8) (c : Chip τ) :
    after (pollSteps ms pollNr c) c = (softwarePoll ms pollNr c).state := by
  unfold pollSteps softwarePoll
  rw [(Act.get_bind _ _).2]
  by_cases hunbounded : c.infiniteSelect = true
  · simp only [if_pos hunbounded]
    rw [after_cons]
    rcases (setBool .infiniteSelect false).yields_or_fails c with ⟨_, h⟩ | ⟨e, h⟩
    · have hrest (found : Except Error (Option Target)) :
          Act.Keeps id (Act.ofExcept found : Op (Chip τ) (Option Target)) := Act.keeps_ofExcept _
      rw [(h.bind _).2, h.1, (Act.attempt_bind _ _ _).2]
      change after (roundsSteps _ _ _ ++ [switch true]) (setBool .infiniteSelect false c).state = _
      rw [after_append, after_roundsSteps]
      exact (Act.keeps_after (fun _ => hrest _) _).symm
    · rw [(h.bind _).2, h.1]
      rfl
  · simp only [if_neg hunbounded]
    rw [after_roundsSteps, (Act.attempt_bind _ _ _).2, Act.ofExcept_apply]

/-- How a poll is made. -/
theorem pollTarget_run (ms : List Modulation) (pollNr period : UInt8) (c : Chip τ) :
    pollTarget ms pollNr period c =
      if (!ms.isEmpty && pollNr != 0 && period != 0) = true then
        (if c.kind ≠ .pn532 then softwarePoll ms pollNr else autoPoll ms pollNr period) c
      else ⟨.error .invalidArgument, c, []⟩ := by
  rw [pollTarget]
  cases (!ms.isEmpty && pollNr != 0 && period != 0) <;> rfl

/-- A poll that is not refused is made by selecting, unless the chip polls by itself. -/
theorem pollTarget_of_selecting {ms : List Modulation} {pollNr period : UInt8} {c : Chip τ}
    (h : Selecting ms pollNr period c) :
    pollTarget ms pollNr period c = softwarePoll ms pollNr c := by
  rw [pollTarget_run, if_pos h.1, if_pos h.2]

/-- **The steps of an operation lead where the operation leads.** -/
theorem after_steps (op : Operation) (c : Chip τ) : after (op.steps c) c = op.run c := by
  unfold Operation.steps
  split
  · split
    · rename_i h
      exact (after_pollSteps _ _ c).trans (congrArg Outcome.state (pollTarget_of_selecting h)).symm
    · rfl
  · rfl

/-- Steps with the chips that they are taken on. -/
def taken : List Operation → Chip τ → List (Operation × Chip τ)
  | [], _ => []
  | step :: steps, c => (step, c) :: taken steps (step.run c)

/-- The steps of a run with the chips that they are taken on. -/
def history : List Operation → Chip τ → List (Operation × Chip τ)
  | [], _ => []
  | op :: ops, c => taken (op.steps c) c ++ history ops (op.run c)

/-- Steps behind others are taken on the chip that those left. -/
theorem taken_append (steps steps' : List Operation) (c : Chip τ) :
    taken (steps ++ steps') c = taken steps c ++ taken steps' (after steps c) := by
  induction steps generalizing c with
  | nil => rfl
  | cons step steps ih =>
      rw [List.cons_append, taken, ih]
      rfl

/-- A run is made of its steps, one after the other. -/
theorem history_eq_taken (ops : List Operation) (c : Chip τ) :
    ∃ steps, history ops c = taken steps c ∧ after steps c = after ops c := by
  induction ops generalizing c with
  | nil => exact ⟨[], rfl, rfl⟩
  | cons op ops ih =>
      obtain ⟨steps, hsteps, hafter⟩ := ih (op.run c)
      refine ⟨op.steps c ++ steps, ?_, ?_⟩
      · rw [history, hsteps, taken_append, after_steps]
      · rw [after_append, after_steps, hafter]
        rfl

/-- The operation is a poll by selecting. -/
def Operation.Polls : Operation → Chip τ → Prop
  | .call ⟨_, .pollTarget ms pollNr period⟩, c => Selecting ms pollNr period c
  | _, _ => False

/-- The selections of a round are no polls. -/
theorem not_polls_of_mem_roundSteps {ms : List Modulation} {op : Operation} {c : Chip τ}
    (h : op ∈ roundSteps ms c) (c' : Chip τ) : ¬ op.Polls c' := by
  induction ms generalizing c with
  | nil => cases h
  | cons m ms ih =>
      rw [roundSteps, List.mem_cons] at h
      rcases h with rfl | h
      · exact id
      · split at h
        · exact ih h
        · exact ih h
        · cases h

theorem not_polls_of_mem_roundsSteps {ms : List Modulation} {n : Nat} {op : Operation}
    {c : Chip τ} (h : op ∈ roundsSteps ms n c) (c' : Chip τ) : ¬ op.Polls c' := by
  induction n generalizing c with
  | zero => cases h
  | succ n ih =>
      rw [roundsSteps, List.mem_append] at h
      rcases h with h | h
      · exact not_polls_of_mem_roundSteps h c'
      · split at h
        · exact ih h
        · cases h

/-- Nor are the switches around the rounds. -/
theorem not_polls_of_mem_pollSteps {ms : List Modulation} {pollNr : UInt8} {op : Operation}
    {c : Chip τ} (h : op ∈ pollSteps ms pollNr c) (c' : Chip τ) : ¬ op.Polls c' := by
  unfold pollSteps at h
  split at h
  · rcases List.mem_cons.mp h with rfl | h
    · exact id
    · split at h
      · cases h
      · rcases List.mem_append.mp h with h | h
        · exact not_polls_of_mem_roundsSteps h c'
        · rw [List.mem_singleton.mp h]
          exact id
  · exact not_polls_of_mem_roundsSteps h c'

theorem mem_of_mem_taken {steps : List Operation} {c : Chip τ} {s : Operation × Chip τ}
    (h : s ∈ taken steps c) : s.1 ∈ steps := by
  induction steps generalizing c with
  | nil => cases h
  | cons step steps ih =>
      rcases List.mem_cons.mp h with rfl | h
      · exact List.mem_cons_self
      · exact List.mem_cons_of_mem _ (ih h)

/-- Every operation but a poll by selecting is a step by itself. -/
theorem steps_of_not_polls {op : Operation} {c : Chip τ} (h : ¬ op.Polls c) :
    op.steps c = [op] := by
  unfold Operation.steps
  split
  · exact if_neg h
  · rfl

/-- No step is a poll by selecting, since those are taken apart. -/
theorem not_polls_of_mem_history {ops : List Operation} {c : Chip τ} {s : Operation × Chip τ}
    (h : s ∈ history ops c) : ¬ s.1.Polls s.2 := by
  induction ops generalizing c with
  | nil => cases h
  | cons op ops ih =>
      rcases List.mem_append.mp h with h | h
      · by_cases hpolls : op.Polls c
        · unfold Operation.Polls at hpolls
          split at hpolls
          · rw [Operation.steps, if_pos hpolls] at h
            exact not_polls_of_mem_pollSteps (mem_of_mem_taken h) s.2
          · exact hpolls.elim
        · rw [steps_of_not_polls hpolls] at h
          obtain rfl := List.mem_singleton.mp h
          exact hpolls
      · exact ih h

end NearField.Pn53x.Chip
