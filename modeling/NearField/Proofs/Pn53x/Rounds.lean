import NearField.Proofs.Pn53x.Asked
import NearField.Proofs.Pn53x.Unbounded

/-!
# The rounds of a poll

A chip that does not poll by itself is polled by selecting the entries of a list, in order and
round after round.  A selection that finds a target decides the poll, and so does one that fails,
unless it ran out of time.  The poll takes its turns up to the one that decides, or all of them
(`turnsTaken`), and ends as that one did, or with nothing found (`verdict`).

So no entry and no round is lost or made twice (`pollOnce_run`).  Around its turns the poll
switches unbounded selection, and if the chip takes both commands every turn is bounded in time and
the switch stands in the end as it did (`pollTarget_takesTurns`).
-/

namespace NearField.Pn53x.Chip
open Simulated

variable {τ : Type} [ChipLink τ] {ms : List Modulation} {pollNr : UInt8}
  {r : Except Error (Option Target)} {rs : List (Except Error (Option Target))}

/-! ## The turn that decides -/

/-- A selection decides a poll if it finds a target, or fails and did not run out of time. -/
def decisive : Except Error (Option Target) → Bool
  | .ok none => false
  | .ok (some _) => true
  | .error e => e ≠ .timeout

/-- The number of turns up to the one that decides, or of all if none does. -/
def turnsTaken (rs : List (Except Error (Option Target))) : Nat :=
  min (rs.findIdx decisive + 1) rs.length

/-- What turns amount to: the first that decides, or nothing found. -/
def verdict (rs : List (Except Error (Option Target))) : Except Error (Option Target) :=
  (rs.find? decisive).getD (.ok none)

/-- How selections end that follow each other, if none is left out. -/
def outcomes : List Modulation → Chip τ → List (Except Error (Option Target))
  | [], _ => []
  | m :: ms, c => (selectPassive m [] c).result :: outcomes ms (selectPassive m [] c).state

/-- What does not decide a poll is passed over. -/
theorem decisive_eq_false_iff : decisive r = false ↔ PassedOver r := by
  unfold PassedOver
  rcases r with e | _ | t <;> simp [decisive]

/-- A turn that is passed over is taken all the same. -/
theorem turnsTaken_cons_of_passedOver (h : PassedOver r) :
    turnsTaken (r :: rs) = turnsTaken rs + 1 := by
  simp [turnsTaken, List.findIdx_cons, decisive_eq_false_iff.mpr h, Nat.add_min_add_right]

/-- No turn is taken behind one that decides. -/
theorem turnsTaken_cons_of_decisive (h : decisive r = true) : turnsTaken (r :: rs) = 1 := by
  simp [turnsTaken, List.findIdx_cons, h]

/-- A turn that is passed over leaves the verdict to the others. -/
theorem verdict_cons_of_passedOver (h : PassedOver r) : verdict (r :: rs) = verdict rs := by
  rw [verdict, List.find?_cons_of_neg (by simp [decisive_eq_false_iff.mpr h]), verdict]

theorem verdict_cons_of_decisive (h : decisive r = true) : verdict (r :: rs) = r := by
  rw [verdict, List.find?_cons_of_pos h, Option.getD_some]

/-- **All turns are taken in vain, or those up to the first that decides.** -/
theorem turns_cases (rs : List (Except Error (Option Target))) :
    ((∀ r ∈ rs, PassedOver r) ∧ turnsTaken rs = rs.length ∧ verdict rs = .ok none) ∨
      ∃ before r later, rs = before ++ r :: later ∧ (∀ r ∈ before, PassedOver r) ∧
        ¬ PassedOver r ∧ turnsTaken rs = before.length + 1 ∧ verdict rs = r := by
  induction rs with
  | nil => exact .inl ⟨List.forall_mem_nil _, rfl, rfl⟩
  | cons r rs ih =>
      by_cases h : PassedOver r
      · rw [turnsTaken_cons_of_passedOver h, verdict_cons_of_passedOver h]
        rcases ih with ⟨hall, htaken, hverdict⟩ |
          ⟨before, r', later, rfl, hbefore, hr', htaken, hverdict⟩
        · exact .inl ⟨List.forall_mem_cons.mpr ⟨h, hall⟩, congrArg (· + 1) htaken, hverdict⟩
        · exact .inr ⟨r :: before, r', later, rfl, List.forall_mem_cons.mpr ⟨h, hbefore⟩, hr',
            congrArg (· + 1) htaken, hverdict⟩
      · have hdecides : decisive r = true := by
          simpa using mt decisive_eq_false_iff.mp h
        exact .inr ⟨[], r, rs, rfl, List.forall_mem_nil _, h, turnsTaken_cons_of_decisive hdecides,
          verdict_cons_of_decisive hdecides⟩

/-- **Turns are taken in order up to the one that decides**, and no later one is. -/
theorem pollOnce_run (ms : List Modulation) (c : Chip τ) :
    (pollOnce ms c).result = verdict (outcomes ms c) ∧
      (pollOnce ms c).state = selecting (ms.take (turnsTaken (outcomes ms c))) c := by
  induction ms generalizing c with
  | nil => exact ⟨rfl, rfl⟩
  | cons m ms ih =>
      rw [outcomes]
      by_cases h : PassedOver (selectPassive m [] c).result
      · obtain ⟨hresult, hstate⟩ := pollOnce_of_passedOver ms h
        rw [hresult, hstate, verdict_cons_of_passedOver h, turnsTaken_cons_of_passedOver h]
        exact ih _
      · have hdecides : decisive (selectPassive m [] c).result = true := by
          simpa using mt decisive_eq_false_iff.mp h
        obtain ⟨hresult, hstate⟩ := pollOnce_of_not_passedOver ms h
        rw [hresult, hstate, verdict_cons_of_decisive hdecides,
          turnsTaken_cons_of_decisive hdecides]
        exact ⟨rfl, rfl⟩

/-! ## Around the turns -/

/-- The chip takes the commands that switch unbounded selection around the rounds of a poll. -/
def Acknowledged (ms : List Modulation) (n : Nat) (c : Chip τ) : Prop :=
  c.infiniteSelect = true → Takes false c ∧ Takes true (pollRounds ms n (bounded c)).state

/-- The turns that a poll of some rounds takes. -/
def polledTurns (ms : List Modulation) (n : Nat) (c : Chip τ) : List Modulation :=
  (turns ms n).take (turnsTaken (outcomes (turns ms n) (bounded c)))

/-- The chip after the turns that a poll takes. -/
def polledChip (ms : List Modulation) (n : Nat) (c : Chip τ) : Chip τ :=
  selecting (polledTurns ms n c) (bounded c)

/-- The chip with the switch set back, if it stood on `c`. -/
def switchedBack (c turned : Chip τ) : Chip τ :=
  if c.infiniteSelect then (setBool .infiniteSelect true turned).state else turned

/-- Rounds one behind the other are one round over all their turns. -/
theorem pollRounds_run (ms : List Modulation) (n : Nat) (c : Chip τ) :
    (pollRounds ms n (bounded c)).result = verdict (outcomes (turns ms n) (bounded c)) ∧
      (pollRounds ms n (bounded c)).state = polledChip ms n c := by
  rw [pollRounds_eq]
  exact pollOnce_run _ _

/-- The switch does not touch the usual timeout. -/
theorem keeps_commandTimeout_switch (enable : Bool) :
    Act.Keeps commandTimeout (setBool .infiniteSelect enable : Op (Chip τ) Unit) := by
  refine .bind Act.keeps_get fun c => .bind (fun c => ?_) fun _ => Act.keeps_modify fun _ => rfl
  exact congrArg (commandTimeout (τ := Unit)) (keeps_command _ c)

/-- Every selection has an outcome. -/
theorem length_outcomes (ms : List Modulation) (c : Chip τ) :
    (outcomes ms c).length = ms.length := by
  induction ms generalizing c with
  | nil => rfl
  | cons m ms ih => exact congrArg (· + 1) (ih _)

/-- Where no turn decides, all of them are taken. -/
theorem polledTurns_of_verdict {n : Nat} {c : Chip τ}
    (h : verdict (outcomes (turns ms n) (bounded c)) = .ok none) :
    polledTurns ms n c = turns ms n := by
  rcases turns_cases (outcomes (turns ms n) (bounded c)) with
    ⟨-, htaken, -⟩ | ⟨before, r, later, -, -, hr, -, hverdict⟩
  · rw [polledTurns, htaken, length_outcomes, List.take_length]
  · exact absurd (.inl (hverdict.symm.trans h)) hr

/-- What the switch is asked around the turns of a poll. -/
def switchRequests (enable : Bool) (c : Chip τ) : List Request :=
  if c.infiniteSelect then [switchRequest enable c.commandTimeout] else []

/-- A poll of `n` rounds takes its turns in bounded time and ends as the one that decides. -/
structure TakesTurns (ms : List Modulation) (n : Nat) (c : Chip (Noted Request τ))
    (polled : Outcome Error (Chip (Noted Request τ)) (Option Target)) : Prop where
  ended : polled.result = verdict (outcomes (turns ms n) (bounded c))
  asked : polled.state.asked = c.asked ++ (switchRequests false c ++
    (polledTurns ms n c).flatMap (selectRequest c.commandTimeout) ++ switchRequests true c)
  switchedOff : ∀ before, before <+: polledTurns ms n c →
    (selecting before (bounded c)).infiniteSelect = false
  /-- A poll that finds nothing has selected every entry in every round. -/
  complete : polled.result = .ok none → polledTurns ms n c = turns ms n
  led : polled.state = switchedBack c (polledChip ms n c)
  restored : polled.state.infiniteSelect = c.infiniteSelect

section Turns

variable {n : Nat} {c : Chip (Noted Request τ)}

/-- Selections do not touch the switch. -/
theorem infiniteSelect_selecting (ms : List Modulation) (c : Chip τ) :
    (selecting ms c).infiniteSelect = c.infiniteSelect :=
  congrArg (Chip.infiniteSelect (τ := Unit)) (settings_selecting ms c)

/-- A chip that takes the command to switch off selects in bounded time. -/
theorem infiniteSelect_bounded {c : Chip τ} (h : c.infiniteSelect = true → Takes false c) :
    (bounded c).infiniteSelect = false := by
  unfold bounded
  split
  · next hflag =>
      obtain ⟨c', hoff⟩ := h hflag
      exact hoff.2 ▸ infiniteSelect_of_yields hoff
  · next hflag => exact Bool.not_eq_true _ ▸ hflag

theorem commandTimeout_bounded (c : Chip τ) : (bounded c).commandTimeout = c.commandTimeout := by
  unfold bounded
  split
  · exact keeps_commandTimeout_switch false c
  · rfl

/-- Switching off asks for one command, if the switch stands on. -/
theorem asked_bounded (c : Chip (Noted Request τ)) :
    (bounded c).asked = c.asked ++ switchRequests false c := by
  unfold bounded switchRequests
  split
  · exact asked_switch false c
  · exact (List.append_nil _).symm

theorem commandTimeout_polledChip (ms : List Modulation) (n : Nat) (c : Chip τ) :
    (polledChip ms n c).commandTimeout = c.commandTimeout :=
  (congrArg (commandTimeout (τ := Unit)) (settings_selecting _ _)).trans (commandTimeout_bounded c)

/-- The turns of a bounded chip are asked for with the usual timeout. -/
theorem asked_polledChip (h : (bounded c).infiniteSelect = false) :
    (polledChip ms n c).asked = c.asked ++ (switchRequests false c ++
      (polledTurns ms n c).flatMap (selectRequest c.commandTimeout)) := by
  have htime : (bounded c).selectionTimeout = c.commandTimeout := by
    rw [selectionTimeout, h]
    exact commandTimeout_bounded c
  rw [polledChip, asked_selecting, asked_bounded, htime, List.append_assoc]

/-- Switching back asks for one command, if the switch stood on. -/
theorem asked_switchedBack {turned : Chip (Noted Request τ)}
    (htime : turned.commandTimeout = c.commandTimeout) :
    (switchedBack c turned).asked = turned.asked ++ switchRequests true c := by
  unfold switchedBack switchRequests
  split
  · rw [asked_switch, htime]
  · exact (List.append_nil _).symm

/-- Switched back, the chip has its switch where it stood. -/
theorem infiniteSelect_switchedBack {c turned : Chip τ} (hoff : turned.infiniteSelect = false)
    (hon : c.infiniteSelect = true → Takes true turned) :
    (switchedBack c turned).infiniteSelect = c.infiniteSelect := by
  unfold switchedBack
  split
  · next hflag =>
      obtain ⟨c', hon⟩ := hon hflag
      rw [hon.2, infiniteSelect_of_yields hon, hflag]
  · next hflag => rw [hoff, Bool.eq_false_iff.mpr hflag]

/-- A poll that finds back to how the switch stood ends as its turns do. -/
theorem softwarePoll_led (hnr : rounds pollNr = n) {c : Chip τ} (hack : Acknowledged ms n c) :
    (softwarePoll ms pollNr c).result = (pollRounds ms n (bounded c)).result ∧
      (softwarePoll ms pollNr c).state = switchedBack c (polledChip ms n c) := by
  rw [← (pollRounds_run ms n c).2, switchedBack]
  cases hflag : c.infiniteSelect with
  | false =>
      have hsame : bounded c = c := by rw [bounded, hflag]; rfl
      rw [hsame, ← hnr]
      exact softwarePoll_of_bounded ms pollNr hflag
  | true =>
      obtain ⟨⟨c', hoff⟩, c₁, hon⟩ := hack hflag
      have hbounded : bounded c = c' := by rw [bounded, if_pos hflag, hoff.2]
      obtain ⟨hends, hstate⟩ := softwarePoll_of_taken ms pollNr hflag hoff
      rw [hnr, ← hbounded] at hends hstate
      refine ⟨?_, hstate⟩
      rcases hends with h | ⟨-, e, c₂, hfails, -⟩
      · exact h
      · exact absurd hfails hon.not_fails

end Turns

/-- **A poll by selecting takes its turns**: on a chip that does not poll by itself and takes the
commands for the switch, entries are selected in order in each round, in bounded time, up to the
turn that decides, or all of them; the poll ends as that one did, and the switch stands as it did
before. -/
theorem pollTarget_takesTurns {c : Chip (Noted Request τ)} (hkind : c.kind ≠ .pn532)
    (hms : ms ≠ []) (hnr : pollNr ≠ 0) (hends : pollNr ≠ 0xFF)
    (hack : Acknowledged ms pollNr.toNat c) :
    TakesTurns ms pollNr.toNat c (softwarePoll ms pollNr c) ∧
      ∀ period : UInt8, period ≠ 0 →
        pollTarget ms pollNr period c = softwarePoll ms pollNr c := by
  obtain ⟨hresult, hled⟩ := softwarePoll_led (if_neg hends) hack
  obtain ⟨hverdict, hturned⟩ := pollRounds_run ms pollNr.toNat c
  have hbounded := infiniteSelect_bounded fun h => (hack h).1
  have hoff (before : List Modulation) : (selecting before (bounded c)).infiniteSelect = false :=
    (infiniteSelect_selecting before _).trans hbounded
  have hended := hresult.trans hverdict
  refine ⟨⟨hended, ?_, fun before _ => hoff before,
    fun hnone => polledTurns_of_verdict (hended.symm.trans hnone), hled, ?_⟩,
    fun period hperiod => pollTarget_of_selecting ⟨by simp [hms, hnr, hperiod], hkind⟩⟩
  · rw [hled, asked_switchedBack (commandTimeout_polledChip _ _ c), asked_polledChip hbounded,
      List.append_assoc]
  · rw [hled]
    exact infiniteSelect_switchedBack (hoff _) fun h => hturned ▸ (hack h).2

/-- A chip that answers neither of two selections of a first round, and one of the second. -/
def answeringLate : Chip (Noted Request ChipScript) where
  link := { world := { replies := [.payload [], .payload [0], .receiveFails .timeout,
    .payload [1, 1, 0x00, 0x04, 0x08, 0x04, 1, 2, 3, 4], .payload []] } }
  kind := .pn533

/-- Two modulations that the chip is polled for. -/
def twoEntries : List Modulation := [⟨.iso14443a, .kbps106⟩, ⟨.felica, .kbps212⟩]

/-- The third of six turns decides. -/
theorem pollTarget_takesTurns_secondRound :
    TakesTurns twoEntries 3 answeringLate (softwarePoll twoEntries 3 answeringLate) ∧
      pollTarget twoEntries 3 1 answeringLate = softwarePoll twoEntries 3 answeringLate ∧
      polledTurns twoEntries 3 answeringLate = twoEntries ++ twoEntries.take 1 ∧
      (softwarePoll twoEntries 3 answeringLate).result.toOption.join.isSome := by
  have hack : Acknowledged twoEntries 3 answeringLate :=
    fun _ => ⟨⟨_, rfl, rfl⟩, ⟨_, rfl, rfl⟩⟩
  have hms : twoEntries ≠ [] := List.cons_ne_nil _ _
  have hends : (3 : UInt8) ≠ 0xFF := by decide
  obtain ⟨hturns, hpoll⟩ := pollTarget_takesTurns (by decide) hms (by decide) hends hack
  exact ⟨hturns, hpoll 1 (by decide), by decide, by decide⟩

end NearField.Pn53x.Chip
