import NearField.Proofs.Pcsc.Shape

/-!
# Cards that are still there

A card is selected by what the reader tells of it, its type and its identifier included, and
looked for later by its answer to reset alone.  What speaks for a family with the type and the
identifier speaks for it without them (`Atr.speaksFor_unknown`), so what a plain reader selects is
found again while the channel reports the same card.

What is looked for is found exactly if its card is reported and looks like one of its family at
the slowest speed (`targetIsPresent_result`).  That it looks so is the shape of its answer, unless
the answer has more historical bytes than half a byte counts (`targetIsPresent_agrees_iff`).
-/

namespace NearField.Pcsc

open Simulated

variable {atr uid : Bytes} {t : Target}

namespace Atr

/-- A target that talks at the slowest speed, in a family whose shape an answer has. -/
def Fits (atr : Bytes) (t : Target) : Prop :=
  t.modulation = ⟨.iso14443a, .kbps106⟩ ∧ ShapedA atr ∨
    t.modulation = ⟨.iso14443b, .kbps106⟩ ∧ ShapedB atr

/-- The answer speaks for the family of a target that talks at the slowest speed. -/
def looksLike (atr : Bytes) (t : Target) : Bool :=
  speaksFor iccUnknown atr [] t.info.family && t.baudRate == .kbps106

/-- Without a type and an identifier the shape of the answer speaks for itself. -/
theorem speaksFor_unknown_iff {f : Family} : speaksFor iccUnknown atr [] f = true ↔
    f = .iso14443a ∧ isTypeA atr = true ∨ f = .iso14443b ∧ isTypeB atr = true := by
  cases f <;> simp [speaksFor, iccMatches, isUidA, isUidB]

/-- What else a reader tells is not needed to speak for a family. -/
theorem speaksFor_unknown {icc : UInt8} {f : Family} (h : speaksFor icc atr uid f = true) :
    speaksFor iccUnknown atr [] f = true := by
  rw [speaksFor_unknown_iff]
  cases f with
  | iso14443a => exact .inl ⟨rfl, (Bool.and_eq_true_iff.mp h).2⟩
  | iso14443b => exact .inr ⟨rfl, (Bool.and_eq_true_iff.mp h).2⟩
  | _ => cases h

theorem looksLike_of_speaksFor {icc : UInt8} {f : Family} (h : speaksFor icc atr uid f = true)
    (ht : t.modulation = ⟨f, .kbps106⟩) : looksLike atr t = true := by
  obtain ⟨rfl, hbaud⟩ := Modulation.mk.inj ht
  rw [looksLike, speaksFor_unknown h, hbaud]
  rfl

theorem looksLike_iff : looksLike atr t = true ↔
    Fits atr t ∨ t.modulation = ⟨.iso14443a, .kbps106⟩ ∧ Overfull atr := by
  rw [looksLike, Bool.and_eq_true, beq_iff_eq, speaksFor_unknown_iff, isTypeA_iff, isTypeB_iff]
  simp only [Fits, Target.modulation, Modulation.mk.injEq]
  grind

/-- An answer has one shape, and an overfull one has none. -/
theorem Fits.not_overfull (h : Fits atr t) :
    ¬ (t.modulation = ⟨.iso14443a, .kbps106⟩ ∧ Overfull atr) := by
  rintro ⟨hA, hover⟩
  rcases h with ⟨-, hshaped⟩ | ⟨hB, -⟩
  · exact hshaped.not_overfull hover
  · rw [hA] at hB
    cases hB

end Atr

namespace Connection

variable {σ : Type} [CardChannel σ] {c : Connection σ}

/-! ## What the channel reports -/

/-- What the channel reports of the card, if it does: a card that was reset reads as absent. -/
def reported? (c : Connection σ) : Option CardStatus :=
  match (CardChannel.status c.channel).result with
  | .ok s => some s
  | .error e => if e = .resetCard then some ⟨false, []⟩ else none

theorem status_result (c : Connection σ) :
    (status c).result = match c.reported? with
      | some s => .ok s
      | none => .error .io := by
  cases h : (CardChannel.status c.channel).result with
  | ok s => simp [-bind_pure_comp, status, reported?, recorded, onChannel, Act.bind_apply, h]
  | error e =>
      by_cases hreset : e = .resetCard
      · simp [-bind_pure_comp, status, reported?, recorded, onChannel, Act.bind_apply, h, hreset]
      · simp [-bind_pure_comp, status, reported?, recorded, onChannel, debug, Act.bind_apply, h,
          hreset]

omit [CardChannel σ] in
/-- Asking the channel leaves the kind of the reader alone. -/
theorem keeps_feitian_recorded {α : Type} (a : Act Scard σ α) :
    Act.Keeps feitian (recorded a) :=
  Act.Keeps.bind (fun _ => rfl) fun _ =>
    .bind (Act.keeps_modify fun _ => rfl) fun _ => Act.keeps_pure _

theorem keeps_feitian_status : Act.Keeps feitian (status : Op (Connection σ) CardStatus) := by
  refine (keeps_feitian_recorded _).bind fun r => ?_
  cases r with
  | ok s => exact Act.keeps_pure s
  | error e => exact .ite (Act.keeps_pure _) (.bind (Act.keeps_log _ _ _) fun _ =>
      Act.keeps_throw _)

theorem presentCard_result (c : Connection σ) :
    (presentCard c).result = match c.reported? with
      | some s => if s.present = true then .ok s else .error .noSuchDevice
      | none => .error .io := by
  refine (Act.bind_result (g := fun s =>
    if s.present = true then .ok s else .error .noSuchDevice) (fun s c => ?_) c).trans ?_
  · cases hpresent : s.present <;> rfl
  · rw [status_result]
    cases c.reported? <;> rfl

theorem presentCard_eq_ok {s : CardStatus} :
    (presentCard c).result = .ok s ↔ c.reported? = some s ∧ s.present = true := by
  rw [presentCard_result]
  cases c.reported? with
  | none => simp
  | some s' => grind

theorem keeps_feitian_presentCard :
    Act.Keeps feitian (presentCard : Op (Connection σ) CardStatus) := by
  refine keeps_feitian_status.bind fun s => .ite ?_ (Act.keeps_pure s)
  exact (Act.keeps_log _ _ _).bind fun _ => (Act.keeps_throw _).bind fun _ => Act.keeps_pure s

/-! ## What a plain reader makes of it -/

/-- A plain reader asks the card nothing to make a target. -/
theorem makeTarget_yields (hplain : c.feitian = false) {icc : UInt8} {f : Family}
    (h : Atr.speaksFor icc atr uid f = true) : ∃ t, (makeTarget icc atr uid f).Yields c t c := by
  cases f with
  | iso14443a =>
      refine ⟨⟨.kbps106, .iso14443a (Atr.infoA atr uid)⟩, ?_⟩
      have hspeaks :
          (Atr.iccMatches icc Atr.iccTypeA && Atr.isUidA uid && Atr.isTypeA atr) = true := h
      rw [makeTarget, Act.require_bind, if_pos hspeaks]
      refine Act.yields_bind.mpr ⟨c, c, Act.yields_get.mpr ⟨rfl, rfl⟩, ?_⟩
      rw [hplain, if_neg Bool.false_ne_true, pure_bind]
      exact Act.yields_pure.mpr ⟨rfl, rfl⟩
  | iso14443b =>
      refine ⟨⟨.kbps106, .iso14443b (Atr.infoB atr)⟩, ?_⟩
      have hspeaks :
          (Atr.iccMatches icc Atr.iccTypeB && Atr.isUidB uid && Atr.isTypeB atr) = true := h
      rw [makeTarget, Act.require_bind, if_pos hspeaks]
      exact Act.yields_pure.mpr ⟨rfl, rfl⟩
  | _ => cases h

/-- The target that a plain reader makes of an answer alone, held against one that is expected. -/
theorem makeTarget_any (hplain : c.feitian = false) (atr : Bytes) (t : Target) :
    ((makeTarget Atr.iccUnknown atr [] t.info.family c).result.toOption.any fun made =>
      made.modulation = t.modulation) = Atr.looksLike atr t := by
  rw [Atr.looksLike]
  cases hspeaks : Atr.speaksFor Atr.iccUnknown atr [] t.info.family with
  | true =>
      obtain ⟨made, hmade, -⟩ := makeTarget_yields hplain hspeaks
      have hmodulation := (gives_makeTarget _ _ _ _ c made hmade).2
      rw [hmade, Bool.true_and]
      change decide (made.modulation = t.modulation) = (t.baudRate == .kbps106)
      rw [hmodulation, Bool.eq_iff_iff, decide_eq_true_iff, beq_iff_eq, Target.modulation,
        Modulation.mk.injEq]
      exact ⟨fun h => h.2.symm, fun h => ⟨rfl, h.symm⟩⟩
  | false =>
      cases hmade : (makeTarget Atr.iccUnknown atr [] t.info.family c).result with
      | error e => rfl
      | ok made =>
          have hgiven := (gives_makeTarget _ _ _ _ c made hmade).1
          rw [hspeaks] at hgiven
          cases hgiven

/-- A plain reader finds a target again by what the channel reports. -/
theorem targetIsPresent_result (hplain : c.feitian = false) (t : Target) :
    (targetIsPresent (some t) c).result = match c.reported? with
      | some s =>
          if s.present = true ∧ Atr.looksLike (s.atr.take Atr.maxSize) t = true then .ok ()
          else .error .noSuchDevice
      | none => .error .io := by
  have hcard := presentCard_result c
  cases h : c.reported? with
  | none =>
      rw [h] at hcard
      have hfails : presentCard.Fails c .io (presentCard c).state := ⟨hcard, rfl⟩
      exact (hfails.bind _).1
  | some s =>
      rw [h] at hcard
      -- a card that is present is compared, and one that is not never gets so far
      by_cases hpresent : s.present = true
      · have hyields : presentCard.Yields c s (presentCard c).state :=
          ⟨hcard.trans (if_pos hpresent), rfl⟩
        have hplain' : (presentCard c).state.feitian = false :=
          (keeps_feitian_presentCard c).trans hplain
        refine (hyields.bind _).1.trans ((Act.attempt_bind _ _ _).1.trans ?_)
        rw [makeTarget_any hplain']
        by_cases hlooks : Atr.looksLike (s.atr.take Atr.maxSize) t = true
        · rw [hlooks]
          exact (if_pos ⟨hpresent, hlooks⟩).symm
        · rw [eq_false_of_ne_true hlooks]
          exact (if_neg fun h => hlooks h.2).symm
      · have hfails : presentCard.Fails c .noSuchDevice (presentCard c).state :=
          ⟨hcard.trans (if_neg hpresent), rfl⟩
        exact (hfails.bind _).1.trans (if_neg fun h => hpresent h.1).symm

/-! ## What a selection finds -/

/-- What is selected was reported as present, and looks like itself. -/
theorem selectPassive_reported {m : Modulation} {data : Bytes}
    (h : (selectPassive m data c).result = .ok (some t)) :
    ∃ s, c.reported? = some s ∧ s.present = true ∧
      Atr.looksLike (s.atr.take Atr.maxSize) t = true := by
  have hselected : (selectPassive m data).Yields c (some t) (selectPassive m data c).state :=
    ⟨h, rfl⟩
  obtain ⟨_, c₁, hchecked, hselected⟩ := Act.yields_bind.mp hselected
  obtain ⟨s, c₂, hcard, hselected⟩ := Act.yields_bind.mp hselected
  obtain ⟨icc, c₃, -, hselected⟩ := Act.yields_bind.mp hselected
  obtain ⟨uid, c₄, -, hselected⟩ := Act.yields_bind.mp hselected
  obtain ⟨made, c₅, hmade, hselected⟩ := Act.yields_bind.mp hselected
  rw [Act.Yields, Act.require_apply] at hchecked
  obtain rfl : c = c₁ := hchecked.2
  cases made with
  | error e =>
      obtain ⟨_, c₆, -, hthrown⟩ := Act.yields_bind.mp hselected
      exact absurd hthrown Act.not_yields_throw
  | ok made =>
      obtain ⟨_, c₆, -, hgiven⟩ := Act.yields_bind.mp hselected
      obtain rfl : made = t := Option.some.inj (Act.yields_pure.mp hgiven).1
      obtain ⟨hreported, hpresent⟩ := presentCard_eq_ok.mp hcard.1
      obtain ⟨hspeaks, hmodulation⟩ :=
        gives_makeTarget icc _ _ m.family c₄ made (Act.yields_attempt.mp hmade).1
      exact ⟨s, hreported, hpresent, Atr.looksLike_of_speaksFor hspeaks hmodulation⟩

/-- **A target is found where its card is reported, exactly if half a byte counts the historical
bytes**, for a plain reader: no reported card is an error of the wire, and any other that does not
fit is no such device.  What was selected is found again as long as the same card is reported. -/
theorem targetIsPresent_agrees_iff (hplain : c.feitian = false) (t : Target) :
    (c.reported? = none → (targetIsPresent (some t) c).result = .error .io) ∧
      (∀ s, c.reported? = some s →
        ((targetIsPresent (some t) c).result ≠ .ok () →
          (targetIsPresent (some t) c).result = .error .noSuchDevice) ∧
        (((targetIsPresent (some t) c).result = .ok () ↔
            s.present = true ∧ Atr.Fits (s.atr.take Atr.maxSize) t) ↔
          ¬ (s.present = true ∧ t.modulation = ⟨.iso14443a, .kbps106⟩ ∧
            Atr.Overfull (s.atr.take Atr.maxSize)))) ∧
      ∀ (m : Modulation) (data : Bytes), (selectPassive m data c).result = .ok (some t) →
        ∀ c' : Connection σ, c'.feitian = false → c'.reported? = c.reported? →
          (targetIsPresent (some t) c').result = .ok () := by
  refine ⟨fun hnone => ?_, fun s hs => ⟨fun hne => ?_, ?_⟩, fun m data h c' hplain' hsame => ?_⟩
  · rw [targetIsPresent_result hplain, hnone]
  · rw [targetIsPresent_result hplain, hs] at hne ⊢
    exact if_neg fun hboth => hne (if_pos hboth)
  · have hok : (targetIsPresent (some t) c).result = .ok () ↔
        s.present = true ∧ Atr.looksLike (s.atr.take Atr.maxSize) t = true := by
      rw [targetIsPresent_result hplain, hs]
      simp
    rw [hok, Atr.looksLike_iff]
    -- both sides differ exactly by the histories that are too long for their length byte
    constructor
    · rintro h ⟨hpresent, hover⟩
      exact (h.mp ⟨hpresent, .inr hover⟩).2.not_overfull hover
    · intro h
      exact ⟨fun ⟨hpresent, hlooks⟩ => ⟨hpresent, hlooks.resolve_right fun hover =>
        h ⟨hpresent, hover⟩⟩, fun ⟨hpresent, hfits⟩ => ⟨hpresent, .inl hfits⟩⟩
  · obtain ⟨s, hs, hpresent, hlooks⟩ := selectPassive_reported h
    rw [targetIsPresent_result hplain', hsame, hs]
    exact if_pos ⟨hpresent, hlooks⟩

/-- A tag of type A that tells one historical byte is selected, and found again. -/
theorem targetIsPresent_agrees_selected :
    let c := Connection.new { present := true, atr := [0x3B, 0x81, 0x80, 0x01, 0x80, 0x80] : Card }
      "ACS ACR122U"
    let t : Target := ⟨.kbps106, .iso14443a (Atr.infoA c.channel.atr [])⟩
    let c' := (selectPassive ⟨.iso14443a, .kbps106⟩ [] c).state
    c.reported? = some ⟨true, c.channel.atr⟩ ∧
      (selectPassive ⟨.iso14443a, .kbps106⟩ [] c).result = .ok (some t) ∧
      (targetIsPresent (some t) c').result = .ok () := by
  intro c t c'
  have hselected : (selectPassive ⟨.iso14443a, .kbps106⟩ [] c).result = .ok (some t) := rfl
  exact ⟨rfl, hselected,
    (targetIsPresent_agrees_iff (c := c) rfl t).2.2 _ [] hselected c' rfl rfl⟩

/-- A target is found by an answer that does not have the shape of its family. -/
theorem targetIsPresent_not_shaped :
    ¬ ∀ (c : Connection Card) (s : CardStatus) (t : Target), c.feitian = false →
      c.reported? = some s → ((targetIsPresent (some t) c).result = .ok () ↔
        s.present = true ∧ Atr.Fits (s.atr.take Atr.maxSize) t) := by
  intro h
  have hover : Atr.Overfull Atr.sixteen := ⟨List.replicate 16 0x00, 0x00, by decide, rfl⟩
  obtain ⟨-, hfits⟩ := (h (Connection.new { present := true, atr := Atr.sixteen } "ACS ACR122U")
    ⟨true, Atr.sixteen⟩ ⟨.kbps106, .iso14443a (Atr.infoA Atr.sixteen [])⟩ rfl rfl).mp rfl
  exact hfits.not_overfull ⟨rfl, hover⟩

end Connection

end NearField.Pcsc
