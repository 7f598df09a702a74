import NearField.Proofs.Device.Call
import NearField.Proofs.Pn53x.Asked
import NearField.Proofs.Pn53x.Counting

/-!
# How long a chip may poll by itself

A chip that polls by itself is sent one command, and the host waits for as long as it allows the
poll (`asked_autoPollFor`).  That covers what the chip was told to do, but nothing bounds the list
before its length is multiplied.  A poll is given the time it needs exactly if the allowance fits
into 32 bits, or if the poll is refused; if it does not fit, the poll stops there, and nothing is
sent (`pollChecked_inTime_iff`).  A poll that does not stop ends as one whose numbers are not
checked (`agrees_pollChecked`), also through a device (`agrees_pollChecked_device`).
-/

namespace NearField.Pn53x.Chip
open Simulated

variable {τ : Type} [ChipLink τ] {ms : List Modulation} {pollNr period : UInt8}

/-! ## Polls that are checked -/

/-- How a poll is made whose numbers are checked. -/
theorem pollChecked_run (ms : List Modulation) (pollNr period : UInt8) (c : Chip τ) :
    pollChecked ms pollNr period c =
      if (!ms.isEmpty && pollNr != 0 && period != 0) = true then
        (if c.kind ≠ .pn532 then countedPoll ms pollNr else checkedAutoPoll ms pollNr period) c
      else ⟨.error (.error .invalidArgument), c, []⟩ := by
  rw [pollChecked]
  cases (!ms.isEmpty && pollNr != 0 && period != 0) <;> rfl

/-- A chip polls by itself, or the poll stops for want of a time to give it, or it is refused. -/
theorem checkedAutoPoll_cases (ms : List Modulation) (pollNr period : UInt8) (c : Chip τ) :
    (∃ types t, (ms.take autoPollTypes).mapM autoPollType? = some types ∧
      autoPollTimeout? ms.length pollNr period = some t ∧
      checkedAutoPoll ms pollNr period c =
        Checked.lift (autoPollFor types pollNr period t) c) ∨
    ((∃ types, (ms.take autoPollTypes).mapM autoPollType? = some types) ∧
      autoPollTimeout? ms.length pollNr period = none ∧
      (checkedAutoPoll ms pollNr period).Fails c .outOfRange c) ∨
    (ms.take autoPollTypes).mapM autoPollType? = none ∧
      (checkedAutoPoll ms pollNr period).Fails c (.error .invalidArgument) c := by
  unfold checkedAutoPoll
  cases (ms.take autoPollTypes).mapM autoPollType? with
  | none => exact .inr (.inr ⟨rfl, rfl, rfl⟩)
  | some types =>
      cases autoPollTimeout? ms.length pollNr period with
      | none => exact .inr (.inl ⟨⟨types, rfl⟩, rfl, rfl, rfl⟩)
      | some t => exact .inl ⟨types, t, rfl, rfl, rfl⟩

theorem agrees_checkedAutoPoll (ms : List Modulation) (pollNr period : UInt8) (c : Chip τ) :
    (checkedAutoPoll ms pollNr period).Agrees (autoPoll ms pollNr period) c := by
  unfold checkedAutoPoll autoPoll
  cases (ms.take autoPollTypes).mapM autoPollType? with
  | none => exact fun _ => ⟨rfl, rfl⟩
  | some types =>
      cases autoPollTimeout? ms.length pollNr period with
      | none => exact Checked.agrees_of_stops ⟨rfl, rfl⟩
      | some t => exact Checked.agrees_lift (autoPollFor types pollNr period t) c

/-- **A poll ends as one whose numbers are not checked**, unless it stops out of range. -/
theorem agrees_pollChecked (ms : List Modulation) (pollNr period : UInt8) (c : Chip τ) :
    (pollChecked ms pollNr period).Agrees (pollTarget ms pollNr period) c := by
  rw [Checked.Agrees, pollChecked_run, pollTarget_run]
  split
  · split
    · exact agrees_countedPoll ms pollNr c
    · exact agrees_checkedAutoPoll ms pollNr period c
  · exact fun _ => ⟨rfl, rfl⟩

/-- So does a poll through a device, whose last error is then that of the poll. -/
theorem agrees_pollChecked_device (ms : List Modulation) (pollNr period : UInt8)
    (d : Device (Chip τ)) :
    (Reader.pollChecked ms pollNr period : Checked (Device (Chip τ)) (Option Target)).Agrees
      (Device.Call.pollTarget ms pollNr period).run d :=
  Device.agrees_dispatchChecked (agrees_pollChecked ms pollNr period d.backend)

/-! ## What a poll is given -/

variable {c : Chip (Noted Request τ)}

/-- A chip that polls by itself is asked for just that. -/
theorem asked_autoPollFor (types : Bytes) (pollNr period : UInt8) (t : Timeout)
    (c : Chip (Noted Request τ)) :
    (autoPollFor types pollNr period t c).state.asked =
      c.asked ++ [⟨inAutoPoll :: pollNr :: period :: types, t⟩] := by
  rw [asked, link_autoPollFor, notes_carry_request]
  rfl

/-- A poll is refused and asks for nothing, or it sends one command, and waits for it as long as the
allowance says and as the command can take; on the way there no number is too large for 32 bits. -/
def InTime (ms : List Modulation) (pollNr period : UInt8) (c : Chip (Noted Request τ))
    (polled : Outcome Halt (Chip (Noted Request τ)) (Option Target)) : Prop :=
  polled.result = .error (.error .invalidArgument) ∧ polled.state.asked = c.asked ∨
  polled.result ≠ .error .outOfRange ∧
    ∃ command t, polled.state.asked = c.asked ++ [⟨command, .millis t⟩] ∧
      Fits ms.length pollNr period ∧ t.toNat = allowance ms.length pollNr period ∧
      pollingTime command ≤ t.toNat

theorem checkedAutoPoll_inTime_iff (hnr : pollNr ≠ 0) (hends : pollNr ≠ 0xFF)
    (hperiod : period ≠ 0) :
    InTime ms pollNr period c (checkedAutoPoll ms pollNr period c) ↔
      (∃ m ∈ ms.take autoPollTypes, autoPollType? m = none) ∨
        allowance ms.length pollNr period < UInt32.size := by
  -- a list that fits is counted as it is
  have hcounted (h : Fits ms.length pollNr period) : narrowed ms.length = ms.length :=
    narrowed_of_lt (fits_iff_steps.mp h).1
  rcases checkedAutoPoll_cases ms pollNr period c with
    ⟨types, t, htypes, htime, hpoll⟩ | ⟨⟨types, htypes⟩, htime, hstops⟩ | ⟨hnone, hrefused⟩
  · obtain ⟨-, span, rfl, hspan⟩ := (autoPollTimeout?_eq_some_iff hends).mp htime
    have hasked := asked_autoPollFor types pollNr period (.millis span) c
    rw [hpoll]
    constructor
    · rintro (⟨-, hsame⟩ | ⟨-, -, -, -, hfits, -⟩)
      · exact absurd (hsame.symm.trans hasked) (by simp)
      · exact .inr ((fits_iff hnr hperiod).mp hfits)
    · rintro (hunknown | hlt)
      · rw [mapM_eq_none_iff.mpr hunknown] at htypes
        cases htypes
      · have hfits := (fits_iff hnr hperiod).mpr hlt
        rw [hcounted hfits] at hspan
        have hlength : types.length ≤ ms.length := by
          have hmap := congrArg List.length (mapM_eq_some_iff.mp htypes)
          simp only [List.length_map, List.length_take] at hmap
          omega
        refine .inr ⟨Checked.lift_inRange _ c, _, span, hasked, hfits, hspan, ?_⟩
        rw [hspan]
        exact pollingTime_le_allowance inAutoPoll hlength
  · refine iff_of_false ?_ ?_
    · rintro (⟨hrefused, -⟩ | ⟨hno, -⟩)
      · exact absurd (hstops.1.symm.trans hrefused) (by simp)
      · exact hno hstops.1
    · rintro (hunknown | hlt)
      · rw [mapM_eq_none_iff.mpr hunknown] at htypes
        cases htypes
      · have hfits := (fits_iff hnr hperiod).mpr hlt
        rw [← hcounted hfits] at hfits
        exact (autoPollTimeout?_eq_none_iff hends).mp htime hfits
  · exact iff_of_true (.inl ⟨hrefused.1, congrArg asked hrefused.2⟩)
      (.inl (mapM_eq_none_iff.mp hnone))

/-- A poll stops exactly if it is not refused and the allowance of the entries that are counted does
not fit; then nothing was sent. -/
theorem checkedAutoPoll_outOfRange_iff (hnr : pollNr ≠ 0) (hends : pollNr ≠ 0xFF)
    (hperiod : period ≠ 0) {c : Chip τ} :
    (checkedAutoPoll ms pollNr period).Fails c .outOfRange c ↔
      (∀ m ∈ ms.take autoPollTypes, autoPollType? m ≠ none) ∧
        UInt32.size ≤ allowance (narrowed ms.length) pollNr period := by
  rw [← Nat.not_lt, ← fits_iff hnr hperiod]
  have htyped : (∀ m ∈ ms.take autoPollTypes, autoPollType? m ≠ none) ↔
      (ms.take autoPollTypes).mapM autoPollType? ≠ none := by
    rw [Ne, mapM_eq_none_iff]
    simp
  rw [htyped]
  rcases checkedAutoPoll_cases ms pollNr period c with
    ⟨types, t, -, htime, hpoll⟩ | ⟨⟨types, htypes⟩, htime, hstops⟩ | ⟨hnone, hrefused⟩
  · refine iff_of_false (fun h => ?_) fun h => h.2 ((autoPollTimeout?_eq_some_iff hends).mp htime).1
    exact Checked.lift_inRange _ c (hpoll ▸ h.1)
  · exact iff_of_true hstops ⟨by simp [htypes], (autoPollTimeout?_eq_none_iff hends).mp htime⟩
  · refine iff_of_false (fun h => ?_) fun h => h.1 hnone
    exact absurd (hrefused.1.symm.trans h.1) (by simp)

/-- **A chip that polls by itself is given the time that it needs exactly if the allowance fits
into 32 bits, or the poll is refused** for an entry that the chip can not poll for.  If the poll is
not refused, and what 32 bits leave of the length of the list makes an allowance that does not fit,
it stops out of range and asks for nothing.  A poll that does not stop ends as one whose numbers are
not checked. -/
theorem pollChecked_inTime_iff (hkind : c.kind = .pn532) (hms : ms ≠ []) (hnr : pollNr ≠ 0)
    (hends : pollNr ≠ 0xFF) (hperiod : period ≠ 0) :
    (InTime ms pollNr period c (pollChecked ms pollNr period c) ↔
      (∃ m ∈ ms.take 15, autoPollType? m = none) ∨
        pollNr.toNat * ms.length * period.toNat * 150 + 500 < UInt32.size) ∧
    ((pollChecked ms pollNr period).Fails c .outOfRange c ↔
      (∀ m ∈ ms.take 15, autoPollType? m ≠ none) ∧
        UInt32.size ≤ pollNr.toNat * (ms.length % UInt32.size) * period.toNat * 150 + 500) ∧
    ((pollChecked ms pollNr period).Fails c .outOfRange c ∨
      (pollChecked ms pollNr period c).result =
          (pollTarget ms pollNr period c).result.mapError .error ∧
        (pollChecked ms pollNr period c).state = (pollTarget ms pollNr period c).state) := by
  have hpoll : pollChecked ms pollNr period c = checkedAutoPoll ms pollNr period c := by
    rw [pollChecked_run, if_pos (by simp [hms, hnr, hperiod]), if_neg (not_not_intro hkind)]
  have hstops : (pollChecked ms pollNr period).Fails c .outOfRange c ↔
      (checkedAutoPoll ms pollNr period).Fails c .outOfRange c := by
    rw [Act.Fails, Act.Fails, hpoll]
  refine ⟨hpoll ▸ checkedAutoPoll_inTime_iff hnr hends hperiod,
    hstops.trans (checkedAutoPoll_outOfRange_iff hnr hends hperiod), ?_⟩
  -- a poll that does not stop out of range is the one that the program makes
  by_cases h : (pollChecked ms pollNr period c).result = .error .outOfRange
  · refine .inl (hstops.mpr ?_)
    rw [hpoll] at h
    rcases checkedAutoPoll_cases ms pollNr period c with
      ⟨types, t, -, -, hrun⟩ | ⟨-, -, hfails⟩ | ⟨-, hrefused⟩
    · exact absurd (hrun ▸ h) (Checked.lift_inRange _ c)
    · exact hfails
    · exact absurd (hrefused.1.symm.trans h) (by simp)
  · exact .inr (agrees_pollChecked ms pollNr period c h)

/-- A chip that polls by itself, behind a link that is silent. -/
def unheard : Chip (Noted Request ChipScript) := { link := { world := {} }, kind := .pn532 }

/-- With the most rounds and the longest period 442 entries fit. -/
theorem pollChecked_inTime_longest :
    let ms : List Modulation := List.replicate 442 ⟨.iso14443a, .kbps106⟩
    InTime ms 254 255 unheard (pollChecked ms 254 255 unheard) := by
  intro ms
  have hms : ms ≠ [] := List.cons_ne_nil _ _
  refine (pollChecked_inTime_iff rfl hms (by decide) (by decide) (by decide)).1.mpr (.inr ?_)
  have hfits : Fits ms.length 254 255 := fits_of_le (by decide) (Nat.le_of_eq List.length_replicate)
  exact (fits_iff_steps.mp hfits).2.2.2.2

/-- With one entry more the poll stops, and the chip is sent nothing. -/
theorem pollChecked_not_inTime :
    let ms : List Modulation := List.replicate 443 ⟨.iso14443a, .kbps106⟩
    let polled := pollChecked ms 254 255 unheard
    polled.result = .error .outOfRange ∧ polled.state.asked = [] ∧
      allowance ms.length 254 255 = 4303967000 ∧ ¬ InTime ms 254 255 unheard polled := by
  intro ms polled
  have hlength : ms.length = 443 := List.length_replicate
  have htyped : ∀ m ∈ ms.take autoPollTypes, autoPollType? m ≠ none := by
    intro m hm
    rw [List.eq_of_mem_replicate (List.mem_of_mem_take hm)]
    decide
  have hstops : (checkedAutoPoll ms 254 255).Fails unheard .outOfRange unheard := by
    refine (checkedAutoPoll_outOfRange_iff (by decide) (by decide) (by decide)).mpr ⟨htyped, ?_⟩
    rw [hlength]
    decide
  have hpolled : polled = checkedAutoPoll ms 254 255 unheard := pollChecked_run ms 254 255 unheard
  rw [hpolled]
  refine ⟨hstops.1, congrArg asked hstops.2, by rw [hlength]; rfl, ?_⟩
  rintro (⟨hrefused, -⟩ | ⟨hno, -⟩)
  · exact absurd (hstops.1.symm.trans hrefused) (by simp)
  · exact hno hstops.1

end NearField.Pn53x.Chip
