import NearField.Proofs.Pn53x.Polling
import NearField.Proofs.Pn53x.Unbounded

/-!
# The count of the rounds

A poll by selecting counts its rounds in 16 bits, also where it has no end and never looks at the
count.  `countedRounds` counts the rounds as they are gone, and stops where the count does not fit:
that is not an error of the library, so nothing switches unbounded selection back (`countedPoll`).

Silent rounds go on for as long as there is room for the count, and stop behind the last that can be
counted (`countedRounds_silent`).  So an endless poll is not endless.  It stops in this way exactly
if nothing answers in the first 65536 rounds, and every other poll ends as one does that is not
counted (`countedPoll_outOfRange_iff`).
-/

namespace NearField.Pn53x.Chip
open Simulated

variable {τ : Type} [ChipLink τ] {ms : List Modulation} {m : Modulation} {pollNr : UInt8}
  {round : UInt16} {n : Nat} {c : Chip τ} {a b : Checked (Chip τ) (Option Target)}

/-! ## Rounds that are counted -/

theorem rounds_endless : rounds 0xFF = UInt16.size := rfl

theorem rounds_of_ne (h : pollNr ≠ 0xFF) : rounds pollNr = pollNr.toNat := if_neg h

theorem countedRounds_of_round (h : pollNr = 0xFF ∨ round < pollNr.toUInt16) :
    (countedRounds ms pollNr round : Checked (Chip τ) (Option Target)) =
      Checked.lift (pollOnce ms) >>= fun found => found.elim
        (if round.toNat + 1 < UInt16.size then countedRounds ms pollNr (round + 1)
          else throw .outOfRange) fun t => pure (some t) := by
  rw [countedRounds, if_pos h]
  refine congrArg _ (funext fun found => ?_)
  cases found with
  | none => exact dite_eq_ite
  | some t => rfl

theorem countedRounds_of_no_round (h : ¬ (pollNr = 0xFF ∨ round < pollNr.toUInt16)) :
    (countedRounds ms pollNr round : Checked (Chip τ) (Option Target)) = pure none := by
  rw [countedRounds, if_neg h]

theorem pollRounds_succ (ms : List Modulation) (n : Nat) :
    (pollRounds ms (n + 1) : Op (Chip τ) (Option Target)) =
      pollOnce ms >>= fun found => found.elim (pollRounds ms n) fun t => pure (some t) := by
  rw [pollRounds]
  refine congrArg _ (funext fun found => ?_)
  cases found <;> rfl

/-- Silent rounds begin with a silent round. -/
theorem silent_succ (h : (pollRounds ms (n + 1) c).result = .ok none) :
    (pollOnce ms).Yields c none (pollOnce ms c).state ∧
      (pollRounds ms n (pollOnce ms c).state).result = .ok none ∧
      (pollRounds ms (n + 1) c).state = (pollRounds ms n (pollOnce ms c).state).state := by
  rw [pollRounds_succ] at h ⊢
  rcases (pollOnce ms).yields_or_fails c with ⟨found, hfound⟩ | ⟨e, hfails⟩
  · rw [(hfound.bind _).1] at h
    rw [(hfound.bind _).2]
    cases found with
    | none => exact ⟨hfound, h, rfl⟩
    | some t => cases h
  · rw [(hfails.bind _).1] at h
    cases h

/-- There is a round to go as long as there is room for the count. -/
theorem round_left (hround : round.toNat + (n + 1) = rounds pollNr) :
    pollNr = 0xFF ∨ round < pollNr.toUInt16 := by
  by_cases hendless : pollNr = 0xFF
  · exact .inl hendless
  · rw [rounds_of_ne hendless] at hround
    refine .inr (UInt16.lt_iff_toNat_lt.mpr ?_)
    rw [UInt8.toNat_toUInt16]
    omega

/-- The count fits, unless it is that of the last round of a poll without end. -/
theorem count_fits (hround : round.toNat + (n + 1) = rounds pollNr)
    (h : ¬ (pollNr = 0xFF ∧ n = 0)) : round.toNat + 1 < UInt16.size := by
  by_cases hendless : pollNr = 0xFF
  · rw [hendless, rounds_endless] at hround
    have hn : n ≠ 0 := fun hn => h ⟨hendless, hn⟩
    omega
  · rw [rounds_of_ne hendless] at hround
    have hlt := pollNr.toNat_lt_size
    have hsize : UInt8.size < UInt16.size := by decide
    omega

/-- There is none where the count has reached the rounds. -/
theorem no_round_left (hround : round.toNat = rounds pollNr) :
    ¬ (pollNr = 0xFF ∨ round < pollNr.toUInt16) := by
  have hlt := round.toNat_lt_size
  by_cases hendless : pollNr = 0xFF
  · rw [hendless, rounds_endless] at hround
    omega
  · rw [rounds_of_ne hendless] at hround
    rintro (h | hless)
    · exact hendless h
    · rw [UInt16.lt_iff_toNat_lt, UInt8.toNat_toUInt16] at hless
      omega

theorem next_count (hround : round.toNat + (n + 1) = rounds pollNr)
    (hfits : round.toNat + 1 < UInt16.size) : (round + 1).toNat + n = rounds pollNr := by
  rw [toNat_succ hfits]
  omega

/-- **An endless poll stops** when the last of its rounds that can be counted was silent. -/
theorem countedRounds_silent (hround : round.toNat + n = rounds 0xFF)
    (hsilent : (pollRounds ms n c).result = .ok none) :
    (countedRounds ms 0xFF round).Fails c .outOfRange (pollRounds ms n c).state := by
  -- on the room that is left for the count
  induction n generalizing round c with
  | zero => exact absurd (.inl rfl) (no_round_left hround)
  | succ n ih =>
      obtain ⟨hfirst, hrest, hstate⟩ := silent_succ hsilent
      have hlift : (Checked.lift (pollOnce ms)).Yields c none (pollOnce ms c).state :=
        ⟨congrArg (Except.mapError Halt.error) hfirst.1, rfl⟩
      rw [countedRounds_of_round (round_left hround), Act.Fails, (hlift.bind _).1,
        (hlift.bind _).2, hstate, Option.elim_none]
      by_cases hn : n = 0
      · subst hn
        rw [rounds_endless] at hround
        rw [if_neg (by omega)]
        exact ⟨rfl, rfl⟩
      · have hfits := count_fits hround fun h => hn h.2
        rw [if_pos hfits]
        exact ih (next_count hround hfits) hrest

/-- Any other rounds end as they do without a count. -/
theorem countedRounds_eq_lift (hround : round.toNat + n = rounds pollNr)
    (h : ¬ (pollNr = 0xFF ∧ (pollRounds ms n c).result = .ok none)) :
    countedRounds ms pollNr round c = Checked.lift (pollRounds ms n) c := by
  induction n generalizing round c with
  | zero =>
      rw [countedRounds_of_no_round (no_round_left hround)]
      rfl
  | succ n ih =>
      rw [countedRounds_of_round (round_left hround), pollRounds_succ, Checked.lift_bind]
      refine Act.bind_congr_run fun found hfound => ?_
      cases found with
      | some t => rfl
      | none =>
          have hfirst : (pollOnce ms).Yields c none (pollOnce ms c).state :=
            ⟨Act.mapError_eq_ok.mp hfound, rfl⟩
          rw [pollRounds_succ, (hfirst.bind _).1] at h
          -- the count overflows only in an endless poll that has found nothing in all its rounds
          have hfits := count_fits hround fun ⟨hendless, hn⟩ => h ⟨hendless, by rw [hn]; rfl⟩
          rw [Option.elim_none, if_pos hfits]
          exact ih (next_count hround hfits) h

/-! ## Chips that never answer -/

/-- A selection fails with its exchange. -/
theorem selectPassive_of_fails {brty : UInt8} (hm : brty? m = some brty) {e : Error} {l : τ}
    (h : (carry inListPassiveTarget [1, brty] (selectionTimeout c)).Fails c.link e l) :
    (selectPassive m []).Fails c e (selectPassive m [] c).state ∧
      (selectPassive m [] c).state.link = l := by
  have hexchange : (transceive (Command.listPassiveTarget 1 brty []) (selectionTimeout c)).Fails c e
      (transceive (Command.listPassiveTarget 1 brty []) (selectionTimeout c) c).state :=
    ⟨(transceive_of_fails h).1, rfl⟩
  refine ⟨⟨?_, rfl⟩, (link_selectPassive hm c).trans h.2⟩
  rw [selectPassive, ((yields_ensureSupported hm c).bind _).1, (Act.get_bind _ _).1]
  exact (hexchange.bind _).1

/-- A chip is mute behind a script that is used up. -/
def Mute (c : Chip ChipScript) : Prop := c.link.replies = []

theorem fails_carry_mute (code : UInt8) (params : Bytes) (t : Timeout) {l : ChipScript}
    (h : l.replies = []) : ∃ l', (carry code params t).Fails l .timeout l' ∧ l'.replies = [] := by
  obtain ⟨replies, events, sent, powerDown, closed⟩ := l
  obtain rfl : replies = [] := h
  exact ⟨_, ⟨rfl, rfl⟩, rfl⟩

theorem selectPassive_mute {c : Chip ChipScript} (hm : (brty? m).isSome) (h : Mute c) :
    PassedOver (selectPassive m [] c).result ∧ Mute (selectPassive m [] c).state := by
  obtain ⟨brty, hm⟩ := Option.isSome_iff_exists.mp hm
  obtain ⟨l, hcarry, hl⟩ := fails_carry_mute inListPassiveTarget [1, brty] c.selectionTimeout h
  obtain ⟨hselect, hlink⟩ := selectPassive_of_fails hm hcarry
  exact ⟨.inr hselect.1, (congrArg ChipScript.replies hlink).trans hl⟩

theorem pollOnce_mute {c : Chip ChipScript} (hms : ∀ m ∈ ms, (brty? m).isSome) (h : Mute c) :
    (pollOnce ms c).result = .ok none := by
  induction ms generalizing c with
  | nil => rfl
  | cons m ms ih =>
      obtain ⟨hm, hms⟩ := List.forall_mem_cons.mp hms
      obtain ⟨hpassed, hmute⟩ := selectPassive_mute hm h
      rw [(pollOnce_of_passedOver ms hpassed).1]
      exact ih hms hmute

/-- No number of rounds brings a mute chip to answer. -/
theorem pollRounds_mute {c : Chip ChipScript} (hms : ∀ m ∈ ms, (brty? m).isSome) (h : Mute c)
    (n : Nat) : (pollRounds ms n c).result = .ok none := by
  rw [pollRounds_eq]
  refine pollOnce_mute (fun m hm => ?_) h
  obtain ⟨round, hround, hm⟩ := List.mem_flatten.mp hm
  exact hms m (List.eq_of_mem_replicate hround ▸ hm)

/-! ## Polls that are counted -/

/-- What a poll does depends on how its rounds run while selection is bounded, if they are
gone. -/
theorem boundedly_congr
    (h : (c.infiniteSelect = true → Takes false c) → a (bounded c) = b (bounded c)) :
    boundedly a c = boundedly b c := by
  have hattempt (f : Except Error (Option Target) → Checked (Chip τ) (Option Target))
      (h : a (bounded c) = b (bounded c)) :
      (Checked.attempt a >>= f) (bounded c) = (Checked.attempt b >>= f) (bounded c) := by
    rw [Act.bind_apply, Act.bind_apply, Checked.attempt, Checked.attempt, h]
  unfold boundedly
  refine Act.bind_congr_run fun c' hc' => ?_
  obtain rfl : c = c' := Except.ok.inj hc'
  rw [Act.get_apply]
  by_cases hflag : c.infiniteSelect = true
  · have hbounded : (Checked.lift (setBool .infiniteSelect false) c).state = bounded c :=
      (if_pos hflag).symm
    rw [if_pos hflag, if_pos hflag]
    refine Act.bind_congr_run fun _ htakes => ?_
    rw [hbounded]
    exact hattempt _ (h fun _ => ⟨_, Act.mapError_eq_ok.mp htakes, rfl⟩)
  · have hbounded : bounded c = c := if_neg hflag
    rw [hbounded] at hattempt h
    rw [if_neg hflag, if_neg hflag]
    exact hattempt _ (h fun hf => absurd hf hflag)

/-- Nothing switches back where the rounds stop out of range. -/
theorem fails_boundedly {c' : Chip τ} (hoff : c.infiniteSelect = true → Takes false c)
    (h : a.Fails (bounded c) .outOfRange c') : (boundedly a).Fails c .outOfRange c' := by
  have hattempt := Checked.fails_attempt h
  unfold boundedly
  rw [Act.Fails, (Act.get_bind _ _).1, (Act.get_bind _ _).2]
  by_cases hflag : c.infiniteSelect = true
  · obtain ⟨c₁, hoff⟩ := hoff hflag
    have hbounded : bounded c = c₁ := by rw [bounded, if_pos hflag, hoff.2]
    have hlift : (Checked.lift (setBool .infiniteSelect false)).Yields c () c₁ :=
      ⟨congrArg (Except.mapError Halt.error) hoff.1, hoff.2⟩
    rw [if_pos hflag, (hlift.bind _).1, (hlift.bind _).2]
    exact (hbounded ▸ hattempt).bind _
  · have hbounded : bounded c = c := if_neg hflag
    rw [if_neg hflag]
    exact (hbounded ▸ hattempt).bind _

/-- A poll whose rounds are not counted passes beside the poll itself. -/
theorem passes_boundedly (ms : List Modulation) (pollNr : UInt8) :
    Checked.Passes Eq
      (boundedly (Checked.lift (pollRounds ms (rounds pollNr))) :
        Checked (Chip τ) (Option Target))
      (softwarePoll ms pollNr) := by
  refine .get_bind fun c c' hc => ?_
  subst hc
  refine .optionally (Checked.passes_refl _) ?_
  refine (Checked.passes_refl _).attempt.bind fun found => ?_
  exact .optionally (Checked.passes_refl _) (Checked.passes_ofExcept found)

/-- A poll has no end, its rounds are gone, and nothing answers in any that can be counted. -/
def Exhausts (ms : List Modulation) (pollNr : UInt8) (c : Chip τ) : Prop :=
  pollNr = 0xFF ∧ (c.infiniteSelect = true → Takes false c) ∧
    (pollRounds ms UInt16.size (bounded c)).result = .ok none

theorem countedPoll_of_exhausts (h : Exhausts ms pollNr c) :
    (countedPoll ms pollNr).Fails c .outOfRange (pollRounds ms UInt16.size (bounded c)).state := by
  obtain ⟨rfl, hoff, hsilent⟩ := h
  exact fails_boundedly hoff (countedRounds_silent rfl hsilent)

theorem countedPoll_of_not_exhausts (h : ¬ Exhausts ms pollNr c) :
    (countedPoll ms pollNr c).result = (softwarePoll ms pollNr c).result.mapError .error ∧
      (countedPoll ms pollNr c).state = (softwarePoll ms pollNr c).state := by
  have hcount : (0 : UInt16).toNat + rounds pollNr = rounds pollNr := Nat.zero_add _
  have hsame : countedPoll ms pollNr c =
      boundedly (Checked.lift (pollRounds ms (rounds pollNr))) c :=
    boundedly_congr fun hoff => countedRounds_eq_lift hcount fun ⟨hendless, hsilent⟩ =>
      h ⟨hendless, hoff, by rwa [hendless, rounds_endless] at hsilent⟩
  rw [hsame]
  exact passes_boundedly ms pollNr c c rfl

/-- **A poll stops out of range exactly if it has no end and nothing answers in the first 65536
rounds**; any other ends as it does without a count. -/
theorem countedPoll_outOfRange_iff (ms : List Modulation) (pollNr : UInt8) (c : Chip τ) :
    ((countedPoll ms pollNr c).result = .error .outOfRange ↔
      pollNr = 0xFF ∧ (c.infiniteSelect = true → Takes false c) ∧
        (pollRounds ms 65536 (bounded c)).result = .ok none) ∧
    ((countedPoll ms pollNr c).result ≠ .error .outOfRange →
      (countedPoll ms pollNr c).result = (softwarePoll ms pollNr c).result.mapError .error ∧
        (countedPoll ms pollNr c).state = (softwarePoll ms pollNr c).state) := by
  by_cases h : Exhausts ms pollNr c
  · have hstops := (countedPoll_of_exhausts h).1
    exact ⟨iff_of_true hstops h, fun hno => absurd hstops hno⟩
  · have hsame := countedPoll_of_not_exhausts h
    refine ⟨iff_of_false (fun hstops => ?_) h, fun _ => hsame⟩
    rw [hsame.1] at hstops
    cases hpoll : (softwarePoll ms pollNr c).result <;> rw [hpoll] at hstops <;> cases hstops

theorem agrees_countedPoll (ms : List Modulation) (pollNr : UInt8) (c : Chip τ) :
    (countedPoll ms pollNr).Agrees (softwarePoll ms pollNr) c := by
  by_cases h : Exhausts ms pollNr c
  · exact Checked.agrees_of_stops (countedPoll_of_exhausts h)
  · exact fun _ => countedPoll_of_not_exhausts h

/-- A chip that takes one command and is mute ever after. -/
def hushed : Chip ChipScript := { link := { replies := [.payload []] } }

/-- An endless poll of a chip that is mute ends. -/
theorem countedPoll_hushed_outOfRange :
    (countedPoll [⟨.iso14443a, .kbps106⟩] 0xFF hushed).result = .error .outOfRange := by
  have hsupported : ∀ m ∈ ([⟨.iso14443a, .kbps106⟩] : List Modulation), (brty? m).isSome := by
    decide
  have hmute : Mute (bounded hushed) := rfl
  have hexhausts : Exhausts [⟨.iso14443a, .kbps106⟩] 0xFF hushed :=
    ⟨rfl, fun _ => ⟨_, rfl, rfl⟩, pollRounds_mute hsupported hmute UInt16.size⟩
  exact (countedPoll_of_exhausts hexhausts).1

end NearField.Pn53x.Chip
