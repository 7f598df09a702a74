import NearField.Pn53x.Initiator
import NearField.Proofs.Checked

/-!
# The time that a poll is allowed

A chip that polls by itself is given a number of rounds, a period, and the types of some entries of
a list.  It may answer when it has been through its rounds (`pollingTime`).  The host makes room for
every entry of the list, and for half a second more (`allowance`), and does so in 32 bits, where it
stops at the first number that is too large (`autoPollTimeout?_eq_some_iff`).

The allowance covers what the chip was told to do, for it counts no fewer entries than the chip was
given (`pollingTime_le_allowance`), and it fits for lists of up to 442 entries (`fits_of_le`).
-/

namespace NearField.Pn53x.Chip

variable {count : Nat} {pollNr period : UInt8}

/-- The milliseconds in which a chip can work off a command to poll by itself.  Behind its code
there are the rounds, the period in units of 150 ms, and the types, each of which takes the period
in each round. -/
def pollingTime : Bytes → Nat
  | _ :: pollNr :: period :: types => pollNr.toNat * types.length * period.toNat * 150
  | _ => 0

/-- The milliseconds that a poll of a list is given. -/
def allowance (count : Nat) (pollNr period : UInt8) : Nat :=
  pollNr.toNat * count * period.toNat * 150 + 500

/-- The numbers that come up on the way to the allowance, and the allowance itself. -/
def allowanceSteps (count : Nat) (pollNr period : UInt8) : List Nat :=
  [count, pollNr.toNat * count, pollNr.toNat * count * period.toNat,
    pollNr.toNat * count * period.toNat * 150, allowance count pollNr period]

/-- No number on the way to the allowance is too large for 32 bits. -/
def Fits (count : Nat) (pollNr period : UInt8) : Prop :=
  ∀ n ∈ allowanceSteps count pollNr period, n < UInt32.size

/-- The entries of a list as they are counted in 32 bits. -/
def narrowed (count : Nat) : Nat := (UInt32.ofNat count).toNat

theorem narrowed_of_lt (h : count < UInt32.size) : narrowed count = count :=
  UInt32.toNat_ofNat_of_lt h

theorem narrowed_lt (count : Nat) : narrowed count < UInt32.size := UInt32.toNat_lt_size _

/-- No number on the way is too large exactly if each of them is not. -/
theorem fits_iff_steps : Fits count pollNr period ↔
    count < UInt32.size ∧ pollNr.toNat * count < UInt32.size ∧
      pollNr.toNat * count * period.toNat < UInt32.size ∧
      pollNr.toNat * count * period.toNat * 150 < UInt32.size ∧
      allowance count pollNr period < UInt32.size := by
  simp only [Fits, allowanceSteps, List.forall_mem_cons, List.not_mem_nil, false_implies,
    implies_true, and_true]

/-- **A poll is given its allowance exactly if no number on the way to it is too large.**  It is
that of the entries as they are counted, and if one of the numbers is too large there is none. -/
theorem autoPollTimeout?_eq_some_iff (hends : pollNr ≠ 0xFF) {t : Timeout} :
    autoPollTimeout? count pollNr period = some t ↔
      Fits (narrowed count) pollNr period ∧
        ∃ ms : UInt32, t = .millis ms ∧ ms.toNat = allowance (narrowed count) pollNr period := by
  rw [autoPollTimeout?, if_neg hends, fits_iff_steps]
  simp only [Option.bind_eq_bind, Option.bind_eq_some_iff, word?_eq_some_iff]
  constructor
  · -- every number on the way to the time is one of 32 bits
    rintro ⟨types, htypes, units, hunits, span, hspan, ms, hms, ht⟩
    rw [hspan, hunits, htypes] at hms
    rw [hunits, htypes] at hspan
    rw [htypes] at hunits
    refine ⟨⟨narrowed_lt count, ?_, ?_, ?_, ?_⟩, ms, (Option.some.inj ht).symm, hms⟩
    · exact htypes ▸ types.toNat_lt_size
    · exact hunits ▸ units.toNat_lt_size
    · exact hspan ▸ span.toNat_lt_size
    · exact Nat.lt_of_le_of_lt (Nat.le_of_eq hms.symm) ms.toNat_lt_size
  · rintro ⟨⟨-, htypes, hunits, hspan, -⟩, ms, rfl, hms⟩
    obtain ⟨types, htypes⟩ := exists_word htypes
    obtain ⟨units, hunits⟩ := exists_word hunits
    obtain ⟨span, hspan⟩ := exists_word hspan
    refine ⟨types, htypes, units, ?_, span, ?_, ms, ?_, rfl⟩
    · rw [htypes, hunits, narrowed]
    · rw [hunits, hspan]
    · rw [hspan, hms]
      rfl

/-- There is none exactly if one of the numbers is too large. -/
theorem autoPollTimeout?_eq_none_iff (hends : pollNr ≠ 0xFF) :
    autoPollTimeout? count pollNr period = none ↔ ¬ Fits (narrowed count) pollNr period := by
  rw [Option.eq_none_iff_forall_ne_some]
  constructor
  · intro h hfits
    obtain ⟨ms, hms⟩ := exists_word (fits_iff_steps.mp hfits).2.2.2.2
    exact h _ ((autoPollTimeout?_eq_some_iff hends).mpr ⟨hfits, ms, rfl, hms⟩)
  · exact fun h t ht => h ((autoPollTimeout?_eq_some_iff hends).mp ht).1

/-- There is no time for a poll without end to be through with. -/
theorem autoPollTimeout?_endless (count : Nat) (period : UInt8) :
    autoPollTimeout? count 0xFF period = some .infinite := rfl

/-- The allowance is the largest of its steps. -/
theorem fits_iff (hnr : pollNr ≠ 0) (hperiod : period ≠ 0) :
    Fits count pollNr period ↔ allowance count pollNr period < UInt32.size := by
  have hpos {b : UInt8} (h : b ≠ 0) : 0 < b.toNat :=
    Nat.pos_of_ne_zero fun hb => h (UInt8.toNat_inj.mp hb)
  have hrounds : count ≤ pollNr.toNat * count := Nat.le_mul_of_pos_left _ (hpos hnr)
  have hperiods : pollNr.toNat * count ≤ pollNr.toNat * count * period.toNat :=
    Nat.le_mul_of_pos_right _ (hpos hperiod)
  rw [fits_iff_steps]
  unfold allowance
  omega

/-- A list of up to 442 entries leaves no number out of range. -/
theorem fits_of_le (hends : pollNr ≠ 0xFF) (hcount : count ≤ 442) :
    Fits count pollNr period := by
  have hnr : pollNr.toNat ≤ 254 := by
    have hne : pollNr.toNat ≠ 255 := fun h => hends (UInt8.toNat_inj.mp h)
    have hlt := pollNr.toNat_lt
    omega
  have hperiod : period.toNat ≤ 255 := Nat.le_of_lt_succ period.toNat_lt
  have hrounds : pollNr.toNat * count ≤ 254 * 442 := Nat.mul_le_mul hnr hcount
  have hproduct : pollNr.toNat * count * period.toNat ≤ 254 * 442 * 255 :=
    Nat.mul_le_mul hrounds hperiod
  have hroom : 254 * 442 * 255 * 150 + 500 < UInt32.size := by decide
  rw [fits_iff_steps]
  unfold allowance
  omega

/-- A list that is not too long is given a time. -/
theorem exists_autoPollTimeout? (hcount : count ≤ 442) (pollNr period : UInt8) :
    ∃ t, autoPollTimeout? count pollNr period = some t := by
  by_cases hends : pollNr = 0xFF
  · subst hends
    exact ⟨_, autoPollTimeout?_endless count period⟩
  · have hsize : 442 < UInt32.size := by decide
    have hnarrowed : narrowed count = count := narrowed_of_lt (Nat.lt_of_le_of_lt hcount hsize)
    have hfits : Fits (narrowed count) pollNr period := hnarrowed.symm ▸ fits_of_le hends hcount
    exact Option.ne_none_iff_exists'.mp fun h => (autoPollTimeout?_eq_none_iff hends).mp h hfits

/-- The allowance covers a command that carries no more types than there are entries. -/
theorem pollingTime_le_allowance {types : Bytes} (code : UInt8) (h : types.length ≤ count) :
    pollingTime (code :: pollNr :: period :: types) ≤ allowance count pollNr period := by
  have hrounds : pollNr.toNat * types.length ≤ pollNr.toNat * count := Nat.mul_le_mul_left _ h
  have hperiods := Nat.mul_le_mul_right period.toNat hrounds
  change pollNr.toNat * types.length * period.toNat * 150 ≤ _
  unfold allowance
  omega

end NearField.Pn53x.Chip
