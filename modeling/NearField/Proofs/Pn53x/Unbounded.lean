import NearField.Proofs.Pn53x.Paired
import NearField.Proofs.Pn53x.Shadow

/-!
# What changes unbounded selection at a chip

The chip layer keeps a flag for unbounded selection.  Setting the switch sets the flag if the
chip takes the command, and leaves it else (`infiniteSelect_setBool`).  Polling by selecting
switches it off for a time, and leaves it off if the chip does not take the command that switches
it on again (`infiniteSelect_pollTarget`).

Nothing else touches it.  An operation that runs alike over two links, whatever is known of the
flag, runs alike over one link and itself, and then keeps what was known (`keeps_of_simulates`).
-/

namespace NearField.Pn53x.Chip

variable {τ α : Type} [ChipLink τ] {c c' : Chip τ} {enable : Bool} {e : Error}

/-- Unbounded selection is known to be `flag`. -/
def Known (flag unbounded : Bool) (_ : Int) : Prop := unbounded = flag

/-- A link is exchanged for itself, whatever is known. -/
theorem interchange_self (flag : Bool) :
    Interchange (Known flag) (fun _ => True) (Eq (α := τ)) where
  carry _ _ _ _ l l' h := by
    subst h
    exact ⟨rfl, rfl⟩
  usual _ := trivial
  endless := trivial

/-- What is known all along of unbounded selection is kept. -/
theorem keeps_of_simulates {a : Op (Chip τ) α}
    (h : ∀ flag, Interchange (Known flag) (fun _ => True) (Eq (α := τ)) →
      Act.Simulates (Paired (Known flag) Eq) a a) : Act.Keeps infiniteSelect a :=
  fun c => (h c.infiniteSelect (interchange_self _) c c ⟨rfl, rfl, rfl⟩).2.known

theorem keeps_infiniteSelect_command (cmd : Bytes) :
    Act.Keeps infiniteSelect (command cmd : Op (Chip τ) Unit) :=
  keeps_of_simulates fun _ h => simulates_command h cmd

/-- The chip takes the command that switches unbounded selection. -/
def Takes (enable : Bool) (c : Chip τ) : Prop :=
  ∃ c', (setBool .infiniteSelect enable).Yields c () c'

theorem infiniteSelect_of_yields {u : Unit}
    (h : (setBool .infiniteSelect enable).Yields c u c') : c'.infiniteSelect = enable := by
  obtain ⟨_, c₁, -, h⟩ := Act.yields_bind.mp h
  obtain ⟨_, c₂, -, h⟩ := Act.yields_bind.mp h
  exact congrArg infiniteSelect (Act.yields_modify.mp h).symm

theorem infiniteSelect_of_fails (h : (setBool .infiniteSelect enable).Fails c e c') :
    c'.infiniteSelect = c.infiniteSelect :=
  congrArg (fun s => s.2.2) (shadow_of_fails (by decide) h)

theorem infiniteSelect_setBool (enable : Bool) (c : Chip τ) :
    (setBool .infiniteSelect enable c).state.infiniteSelect ≠ c.infiniteSelect ↔
      c.infiniteSelect ≠ enable ∧ Takes enable c := by
  rcases (setBool .infiniteSelect enable).yields_or_fails c with ⟨_, h⟩ | ⟨e, h⟩
  · rw [infiniteSelect_of_yields h]
    exact ⟨fun hne => ⟨hne.symm, _, h⟩, fun hne => hne.1.symm⟩
  · refine iff_of_false (fun hne => hne (infiniteSelect_of_fails h)) ?_
    rintro ⟨-, c', hc'⟩
    exact hc'.not_fails h

theorem keeps_setBool {p : Property} (hp : p ≠ .infiniteSelect) (enable : Bool) :
    Act.Keeps infiniteSelect (setBool p enable : Op (Chip τ) Unit) :=
  keeps_of_simulates fun _ h => simulates_setBool h p enable fun h => absurd h hp

theorem keeps_setInt {p : Property} (hp : p ≠ .infiniteSelect) (value : Int) :
    Act.Keeps infiniteSelect (setInt p value : Op (Chip τ) Unit) :=
  keeps_of_simulates fun _ h =>
    simulates_setInt h p value (fun h => absurd h hp) fun _ _ _ hk => hk

/-- A number switches unbounded selection as the switch does. -/
theorem infiniteSelect_setInt (value : Int) (c : Chip τ) :
    (setInt .infiniteSelect value c).state.infiniteSelect ≠ c.infiniteSelect ↔
      c.infiniteSelect ≠ decide (value ≠ 0) ∧ Takes (decide (value ≠ 0)) c :=
  infiniteSelect_setBool _ c

theorem keeps_pollRounds (ms : List Modulation) (n : Nat) :
    Act.Keeps infiniteSelect (pollRounds ms n : Op (Chip τ) (Option Target)) :=
  keeps_of_simulates fun _ h => simulates_pollRounds h ms n

theorem keeps_powerDown : Act.Keeps infiniteSelect (powerDown : Op (Chip τ) Unit) := by
  refine .bind Act.keeps_get fun c => .bind (Act.keeps_require _ _) fun _ => ?_
  exact .bind (keeps_infiniteSelect_command _) fun _ => Act.keeps_modify fun _ => rfl

theorem keeps_targetInit (capacity : Nat) (t : Timeout) :
    Act.Keeps (fun s => s.2.infiniteSelect)
      (targetInit capacity t : Op (Target × Chip τ) Bytes) := by
  intro s
  have hsame := simulates_targetInit (interchange_self s.2.infiniteSelect) capacity
    (t := t) trivial s s ⟨rfl, rfl, rfl, rfl⟩
  exact hsame.2.2.known

/-! ## Polling -/

/-- The chip takes the command that bounds selection, and after the rounds of a poll it does not
take the one that unbounds it again. -/
def LeavesBounded (ms : List Modulation) (pollNr : UInt8) (c : Chip τ) : Prop :=
  ∃ c₁, (setBool .infiniteSelect false).Yields c () c₁ ∧
    ¬ Takes true (pollRounds ms (rounds pollNr) c₁).state

theorem infiniteSelect_softwarePoll (ms : List Modulation) (pollNr : UInt8) (c : Chip τ) :
    (softwarePoll ms pollNr c).state.infiniteSelect ≠ c.infiniteSelect ↔
      c.infiniteSelect = true ∧ LeavesBounded ms pollNr c := by
  have hpoll := keeps_pollRounds (τ := τ) ms (rounds pollNr)
  have hfound (found : Except Error (Option Target)) :
      Act.Keeps infiniteSelect (Act.ofExcept found : Op (Chip τ) _) := Act.keeps_ofExcept _
  rw [softwarePoll, (Act.get_bind _ _).2]
  cases hflag : c.infiniteSelect with
  | false =>
      -- nothing is switched
      have hkeeps : Act.Keeps infiniteSelect (do
          Act.ofExcept (← (pollRounds ms (rounds pollNr)).attempt) :
          Op (Chip τ) (Option Target)) :=
        .bind hpoll.attempt hfound
      exact iff_of_false (fun h => h ((hkeeps c).trans hflag)) fun h => absurd h.1 (by decide)
  | true =>
      rcases (setBool .infiniteSelect false).yields_or_fails c with ⟨_, hoff⟩ | ⟨e, hoff⟩
      · -- the poll keeps selection bounded, so what counts is the command after it
        rw [if_pos rfl, (hoff.bind _).2, (Act.attempt_bind _ _ _).2, if_pos rfl,
          Act.keeps_after fun _ => hfound _]
        generalize (setBool .infiniteSelect false c).state = c₁ at hoff
        have hbounded : (pollRounds ms (rounds pollNr) c₁).state.infiniteSelect = false :=
          (hpoll c₁).trans (infiniteSelect_of_yields hoff)
        have hon := infiniteSelect_setBool true (pollRounds ms (rounds pollNr) c₁).state
        rw [hbounded] at hon
        refine ⟨fun hne => ⟨rfl, c₁, hoff, fun htakes => ?_⟩, ?_⟩
        · exact hon.mpr ⟨by decide, htakes⟩ (by simpa using hne)
        · rintro ⟨-, c₁', hoff', htakes⟩ htrue
          obtain ⟨-, rfl⟩ := hoff.unique hoff'
          exact htakes (hon.mp (by simpa using htrue)).2
      · rw [if_pos rfl, (hoff.bind _).2]
        refine iff_of_false (fun h => h ((infiniteSelect_of_fails hoff).trans hflag)) ?_
        rintro ⟨-, c₁, hoff', -⟩
        exact hoff'.not_fails hoff

/-- Polling ends with unbounded selection off that was on: the chip does not poll by itself, and
does not take the command that switches it on again. -/
def Abandons (ms : List Modulation) (pollNr period : UInt8) (c : Chip τ) : Prop :=
  (ms ≠ [] ∧ pollNr ≠ 0 ∧ period ≠ 0) ∧ c.kind ≠ .pn532 ∧ c.infiniteSelect = true ∧
    LeavesBounded ms pollNr c

theorem keeps_autoPoll (ms : List Modulation) (pollNr period : UInt8) :
    Act.Keeps infiniteSelect (autoPoll ms pollNr period : Op (Chip τ) (Option Target)) :=
  keeps_of_simulates fun _ h => simulates_autoPoll h ms pollNr period fun _ _ => trivial

/-- **Polling changes whether selection is unbounded** only where it does not find back. -/
theorem infiniteSelect_pollTarget (ms : List Modulation) (pollNr period : UInt8) (c : Chip τ) :
    (pollTarget ms pollNr period c).state.infiniteSelect ≠ c.infiniteSelect ↔
      Abandons ms pollNr period c := by
  have hcheck : (!ms.isEmpty && pollNr != 0 && period != 0) = true ↔
      ms ≠ [] ∧ pollNr ≠ 0 ∧ period ≠ 0 := by
    simp [and_assoc]
  unfold pollTarget Abandons
  rw [← hcheck]
  cases (!ms.isEmpty && pollNr != 0 && period != 0) with
  | false => exact iff_of_false (fun h => h rfl) fun h => absurd h.1 (by decide)
  | true =>
      change ((if c.kind ≠ .pn532 then _ else _ : Op (Chip τ) _) c).state.infiniteSelect ≠ _ ↔ _
      by_cases hkind : c.kind = .pn532
      · rw [if_neg (Decidable.not_not.mpr hkind)]
        exact iff_of_false (fun h => h (keeps_autoPoll ms pollNr period c)) fun h => h.2.1 hkind
      · rw [if_pos hkind, infiniteSelect_softwarePoll]
        exact ⟨fun h => ⟨rfl, hkind, h⟩, fun h => h.2.2⟩

end NearField.Pn53x.Chip
