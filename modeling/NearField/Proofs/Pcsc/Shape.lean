import Mathlib.Data.List.Basic
import NearField.Pcsc.Connection
import NearField.Proofs.Act
import NearField.Simulated.Card

/-!
# The shapes of answers to reset

An answer of type A is `3B 8n 80 01`, then `n` historical bytes and a check byte (`ShapedA`).  The
lower half of a byte counts fifteen of them at most, and another upper half than `8` announces
interface bytes.

The reader holds the second byte against the number of historical bytes over `80`, and sets no
bound to that number.  So it takes the answers of this shape, and those besides whose number runs
over into the upper half of the byte (`Overfull`).  Among the answers that are short enough to get
to the check these are the ones that announce interface bytes (`isTypeA_agrees_iff`).
-/

namespace NearField.Pcsc.Atr

variable {atr : Bytes}

/-- The shape of type A. -/
def ShapedA (atr : Bytes) : Prop :=
  ∃ (n : Nat) (historical : Bytes) (check : UInt8), n ≤ 15 ∧ historical.length = n ∧
    atr = [0x3B, 0x80 + UInt8.ofNat n, 0x80, 0x01] ++ historical ++ [check]

/-- The shape of type B. -/
def ShapedB (atr : Bytes) : Prop :=
  ∃ (application protocol : Bytes) (mbli check : UInt8), application.length = 4 ∧
    protocol.length = 3 ∧ atr = [0x3B, 0x88, 0x80, 0x01] ++ application ++ protocol ++ [mbli, check]

/-- An answer with its number of historical bytes over the `80`, which is too much for half a
byte. -/
def Overfull (atr : Bytes) : Prop :=
  ∃ (historical : Bytes) (check : UInt8), 15 < historical.length ∧
    atr = [0x3B, 0x80 ||| UInt8.ofNat historical.length, 0x80, 0x01] ++ historical ++ [check]

/-- The upper half of the second byte is not `8`. -/
def AnnouncesInterface (atr : Bytes) : Prop := ∃ t0 : UInt8, atr[1]? = some t0 ∧ t0 >>> 4 ≠ 8

/-! ## Type A -/

/-- The check of type A is passed by any number of historical bytes. -/
theorem isTypeA_eq_true_iff : isTypeA atr = true ↔ ∃ (historical : Bytes) (check : UInt8),
    atr = [0x3B, 0x80 ||| UInt8.ofNat historical.length, 0x80, 0x01] ++ historical ++ [check] := by
  constructor
  · intro h
    unfold isTypeA at h
    split at h
    · rename_i t0 rest
      simp only [Bool.and_eq_true, decide_eq_true_eq, beq_iff_eq] at h
      obtain ⟨hlen, rfl⟩ := h
      rcases List.eq_nil_or_concat rest with rfl | ⟨historical, check, rfl⟩
      · exact absurd hlen (by decide)
      · exact ⟨historical, check, by simp⟩
    · cases h
  · rintro ⟨historical, check, rfl⟩
    simp [isTypeA]

/-- Up to fifteen the number takes the lower half of the byte. -/
theorem or_ofNat_of_le {n : Nat} (h : n ≤ 15) :
    (0x80 : UInt8) ||| UInt8.ofNat n = 0x80 + UInt8.ofNat n := by
  have hall : ∀ n < 16, (0x80 : UInt8) ||| UInt8.ofNat n = 0x80 + UInt8.ofNat n := by decide
  exact hall n (Nat.lt_succ_of_le h)

theorem isTypeA_iff : isTypeA atr = true ↔ ShapedA atr ∨ Overfull atr := by
  rw [isTypeA_eq_true_iff]
  constructor
  · rintro ⟨historical, check, hatr⟩
    rcases Nat.lt_or_ge 15 historical.length with hmany | hfew
    · exact .inr ⟨historical, check, hmany, hatr⟩
    · exact .inl ⟨_, historical, check, hfew, rfl, or_ofNat_of_le hfew ▸ hatr⟩
  · rintro (⟨n, historical, check, hfew, rfl, hatr⟩ | ⟨historical, check, -, hatr⟩)
    · exact ⟨historical, check, (or_ofNat_of_le hfew).symm ▸ hatr⟩
    · exact ⟨historical, check, hatr⟩

/-- The two are told apart by the length. -/
theorem ShapedA.not_overfull (h : ShapedA atr) : ¬ Overfull atr := by
  obtain ⟨n, historical, check, hfew, rfl, rfl⟩ := h
  rintro ⟨historical', check', hmany, hatr⟩
  have hlen := congrArg List.length hatr
  simp only [List.length_append, List.length_cons, List.length_nil] at hlen
  omega

theorem ShapedA.not_announcesInterface (h : ShapedA atr) : ¬ AnnouncesInterface atr := by
  have hupper : ∀ n < 16, ((0x80 : UInt8) + UInt8.ofNat n) >>> 4 = 8 := by decide
  obtain ⟨n, historical, check, hfew, -, rfl⟩ := h
  rintro ⟨t0, ht0, hne⟩
  obtain rfl : 0x80 + UInt8.ofNat n = t0 := Option.some.inj ht0
  exact hne (hupper n (Nat.lt_succ_of_le hfew))

/-- The number runs over into the upper half, unless there are so many bytes that it is lost. -/
theorem Overfull.announcesInterface (h : Overfull atr) (hlen : atr.length ≤ maxSize) :
    AnnouncesInterface atr := by
  have hupper : ∀ n < 29, 15 < n → ((0x80 : UInt8) ||| UInt8.ofNat n) >>> 4 ≠ 8 := by decide
  obtain ⟨historical, check, hmany, rfl⟩ := h
  simp only [List.length_append, List.length_cons, List.length_nil, maxSize] at hlen
  exact ⟨_, rfl, hupper historical.length (by omega) hmany⟩

theorem announcesInterface_take :
    AnnouncesInterface (atr.take maxSize) ↔ AnnouncesInterface atr := by
  unfold AnnouncesInterface
  rw [List.getElem?_take_of_lt (by decide)]

/-! ## Type B -/

/-- The check of type B is passed by the answers of its shape alone. -/
theorem isTypeB_iff : isTypeB atr = true ↔ ShapedB atr := by
  constructor
  · intro h
    unfold isTypeB at h
    split at h
    · rename_i rest
      have hlen : rest.length = 9 := beq_iff_eq.mp h
      obtain ⟨mbli, check, hlast⟩ := List.length_eq_two.mp
        (show (rest.drop 7).length = 2 by rw [List.length_drop, hlen])
      refine ⟨rest.take 4, (rest.drop 4).take 3, mbli, check, ?_, ?_, ?_⟩
      · rw [List.length_take, hlen]
        rfl
      · rw [List.length_take, List.length_drop, hlen]
        rfl
      · rw [← hlast, List.append_assoc, List.append_assoc, ← List.drop_drop (i := 3) (j := 4),
          List.take_append_drop, List.take_append_drop]
        rfl
    · cases h
  · rintro ⟨application, protocol, mbli, check, happlication, hprotocol, rfl⟩
    simp [isTypeB, happlication, hprotocol]

end NearField.Pcsc.Atr

namespace NearField.Pcsc

open Simulated

variable {σ : Type} [CardChannel σ]

/-- The reports of a reader speak for a family. -/
def Atr.speaksFor (icc : UInt8) (atr uid : Bytes) : Family → Bool
  | .iso14443a => iccMatches icc iccTypeA && isUidA uid && isTypeA atr
  | .iso14443b => iccMatches icc iccTypeB && isUidB uid && isTypeB atr
  | _ => false

/-- A target is made of reports that speak for its family, and talks at the slowest speed. -/
theorem Connection.gives_makeTarget (icc : UInt8) (atr uid : Bytes) (f : Family) :
    Act.Gives (fun t => Atr.speaksFor icc atr uid f = true ∧ t.modulation = ⟨f, .kbps106⟩)
      (makeTarget icc atr uid f : Op (Connection σ) Target) := by
  cases f with
  | iso14443a =>
      refine (Act.gives_require _ _).bind fun _ h => .after fun c => ?_
      exact .ite (.after fun info => Act.gives_pure ⟨h, rfl⟩) (.after fun info =>
        Act.gives_pure ⟨h, rfl⟩)
  | iso14443b =>
      exact (Act.gives_require _ _).bind fun _ h => Act.gives_pure ⟨h, rfl⟩
  | _ => exact Act.gives_throw _

/-- **The shape of type A is told by its check exactly where half a byte counts the historical
bytes.**  An answer that is taken for one of a tag of type A announces interface bytes exactly if
it has more of them. -/
theorem Atr.isTypeA_agrees_iff (atr : Bytes) :
    ((isTypeA atr = true ↔ ShapedA atr) ↔ ¬ Overfull atr) ∧
      ∀ (icc : UInt8) (uid : Bytes) (c c' : Connection σ) (target : Target),
        (Connection.makeTarget icc (atr.take maxSize) uid .iso14443a).Yields c target c' →
          (AnnouncesInterface atr ↔ Overfull (atr.take maxSize)) := by
  refine ⟨⟨fun h hover => ?_, fun h => ?_⟩, fun icc uid c c' target hmade => ?_⟩
  · exact (h.mp (isTypeA_iff.mpr (.inr hover))).not_overfull hover
  · exact ⟨fun hA => (isTypeA_iff.mp hA).resolve_right h, fun hA => isTypeA_iff.mpr (.inl hA)⟩
  · have hspeaks := (Connection.gives_makeTarget icc _ uid .iso14443a c target hmade.1).1
    rw [← announcesInterface_take]
    rcases isTypeA_iff.mp (Bool.and_eq_true_iff.mp hspeaks).2 with hshaped | hover
    · exact iff_of_false hshaped.not_announcesInterface hshaped.not_overfull
    · exact iff_of_true (hover.announcesInterface (List.length_take_le _ _)) hover

/-- An answer with sixteen historical bytes. -/
def Atr.sixteen : Bytes := [0x3B, 0x90, 0x80, 0x01] ++ List.replicate 16 0x00 ++ [0x00]

/-- A reader makes a tag of type A of sixteen historical bytes, and is told of interface bytes. -/
theorem Atr.isTypeA_agrees_sixteen :
    let c := Connection.new ({} : Card) "ACS ACR122U"
    let tag : Target := ⟨.kbps106, .iso14443a (infoA sixteen [])⟩
    (Connection.makeTarget iccUnknown (sixteen.take maxSize) [] .iso14443a).Yields c tag c ∧
      (AnnouncesInterface sixteen ↔ Overfull (sixteen.take maxSize)) := by
  intro c tag
  have hmade : (Connection.makeTarget iccUnknown (sixteen.take maxSize) [] .iso14443a).Yields
      c tag c := ⟨rfl, rfl⟩
  exact ⟨hmade, (isTypeA_agrees_iff sixteen).2 iccUnknown [] c c tag hmade⟩

/-- The check passes an answer that announces interface bytes and does not have the shape. -/
theorem Atr.isTypeA_not_shaped : ¬ ∀ atr, isTypeA atr = true ↔ ShapedA atr := by
  intro h
  have hover : Overfull sixteen := ⟨List.replicate 16 0x00, 0x00, by decide, rfl⟩
  exact ((h sixteen).mp (by decide)).not_overfull hover

end NearField.Pcsc
