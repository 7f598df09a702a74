import NearField.Iso14443
import NearField.Proofs.Checked
import NearField.Proofs.Pcsc.Shape

/-!
# Historical bytes of an answer to reset

A reader that only has an answer to reset makes an answer to select of it: four bytes of its own,
and behind them the historical bytes.  The first of the four announces interface bytes by its bits,
and the others are these interface bytes, as many as are announced (`interfaceBytes_intro`).  So the
historical bytes are found where they were put, however many there are
(`historicalBytes?_intro`).

They are cut from the answer to reset behind its header and in front of its check byte.  An answer
that passes for type A has both, and nothing else of it is read (`historicalBytes?_infoA`).
-/

namespace NearField.Pcsc.Atr

open Iso14443

variable {σ : Type} {atr : Bytes}

/-- What stands behind four bytes and in front of the last. -/
theorem dropLast_drop_four {header : Bytes} (hheader : header.length = 4) (historical : Bytes)
    (check : UInt8) : ((header ++ historical ++ [check]).drop 4).dropLast = historical := by
  rw [List.append_assoc, ← hheader, List.drop_left, List.dropLast_concat]

/-- `infoA` with its accesses checked. -/
def infoAChecked (atr uid : Bytes) : Checked σ Iso14443aInfo := do
  let stop ← Checked.minus atr.length 1
  let historical ← Checked.slice atr 4 stop
  return { atqa := .replicate 2 0x00, sak := 0x20, uid, ats := atsIntro ++ historical }

/-- An answer with a header and a check byte is long enough, and checking that makes no
difference. -/
theorem infoAChecked_eq (h : 5 ≤ atr.length) (uid : Bytes) :
    (infoAChecked atr uid : Checked σ Iso14443aInfo) = pure (infoA atr uid) := by
  have hcut : (atr.take (atr.length - 1)).drop 4 = (atr.drop 4).dropLast := by
    rw [List.dropLast_eq_take, List.length_drop, List.drop_take, Nat.sub_right_comm]
  rw [infoAChecked, Checked.minus_eq (by omega), pure_bind,
    Checked.slice_eq (by omega) (Nat.sub_le _ _), pure_bind, hcut]
  rfl

/-- As many interface bytes are announced as there are. -/
theorem interfaceBytes_intro : atsIntro = 0x75 :: atsIntro.tail ∧
    interfaceBytes 0x75 = atsIntro.tail.length := by
  decide

/-- **Historical bytes are found where they were put.** -/
theorem historicalBytes?_intro (historical : Bytes) : historicalBytes? (atsIntro ++ historical) =
    if historical = [] then none else some historical := by
  obtain ⟨hintro, hcount⟩ := interfaceBytes_intro
  rw [hintro, List.cons_append, historicalBytes?, hcount, List.drop_left]
  cases historical <;> rfl

/-- **The historical bytes of an answer of type A are handed on as they are**, or there are none.
They are what stands between the four bytes of the header and the check byte, and none of the bytes
that are read is out of range. -/
theorem historicalBytes?_infoA (h : isTypeA atr = true) (uid : Bytes) :
    (∃ header historical check, header.length = 4 ∧ atr = header ++ historical ++ [check] ∧
      historicalBytes? (infoA atr uid).ats =
        if historical = [] then none else some historical) ∧
      (infoAChecked atr uid : Checked σ Iso14443aInfo) = pure (infoA atr uid) := by
  obtain ⟨historical, check, rfl⟩ := isTypeA_eq_true_iff.mp h
  refine ⟨⟨_, historical, check, rfl, rfl, ?_⟩, infoAChecked_eq (by simp) uid⟩
  rw [infoA, dropLast_drop_four rfl, historicalBytes?_intro]

/-- The answer of a tag whose historical bytes are an answer to select themselves. -/
def desfire : Bytes := [0x3B, 0x86, 0x80, 0x01, 0x06, 0x75, 0x77, 0x81, 0x02, 0x80, 0x00]

/-- The shortest answer, which has no historical bytes. -/
def bare : Bytes := [0x3B, 0x80, 0x80, 0x01, 0x81]

/-- An answer with historical bytes, and one without. -/
theorem historicalBytes?_infoA_desfire :
    (isTypeA desfire = true ∧ historicalBytes? (infoA desfire []).ats =
      some [0x06, 0x75, 0x77, 0x81, 0x02, 0x80]) ∧
    isTypeA bare = true ∧ historicalBytes? (infoA bare []).ats = none := by
  have hdesfire : isTypeA desfire = true := by decide
  have hbare : isTypeA bare = true := by decide
  refine ⟨⟨hdesfire, ?_⟩, hbare, ?_⟩
  · obtain ⟨⟨header, historical, check, hheader, hatr, h⟩, -⟩ :=
      historicalBytes?_infoA (σ := Unit) hdesfire []
    rw [h, ← dropLast_drop_four hheader historical check, ← hatr]
    rfl
  · obtain ⟨⟨header, historical, check, hheader, hatr, h⟩, -⟩ :=
      historicalBytes?_infoA (σ := Unit) hbare []
    rw [h, ← dropLast_drop_four hheader historical check, ← hatr]
    rfl

end NearField.Pcsc.Atr
