import Mathlib.Algebra.Group.Nat.Defs
import Mathlib.Tactic.Common
import NearField.Pn53x.Command

/-!
# Timeout codes

The chip takes a timeout as a code that stands for a power of two: each code denotes twice as long
as the one below it (`codeMicros`).  The host finds the code of a timeout in milliseconds by halving
a threshold, `halved`, and lowering the code by one as long as the timeout fits the threshold.

The thresholds are cut to whole milliseconds, and they do not start at a power of two.  They start
just above what the largest code but one can denote, so a timeout that exceeds a threshold is at
least what the code at that threshold denotes (`codeMicros_le_halved`).  Where the loop ends
(`Ends`) tells the rest: no code denotes more than the timeout it stands for, save for 1 ms, and
longer timeouts have no smaller codes (`timeoutCode_denotes`).
-/

namespace NearField.Pn53x

variable {ms ms' : Int} {code code' : UInt8} {fuel threshold k k' : Nat}

/-! ## Thresholds -/

/-- The threshold behind `k` halvings, in milliseconds. -/
def halved (k : Nat) : Nat := 3280 / 2 ^ k

/-- What a code other than zero denotes, in microseconds. -/
def codeMicros (code : UInt8) : Nat := 100 * 2 ^ (code.toNat - 1)

theorem halved_succ (k : Nat) : halved (k + 1) = halved k / 2 := by
  rw [halved, halved, Nat.pow_succ, Nat.div_div_eq_div_mul]

/-- A threshold can be halved eleven times. -/
theorem halved_le_one_iff : halved k ≤ 1 ↔ 11 ≤ k := by
  have hdiv : 2 ≤ halved k ↔ 2 * 2 ^ k ≤ 3280 := Nat.le_div_iff_mul_le (Nat.two_pow_pos k)
  have hpow : 2 * 2 ^ k ≤ 3280 ↔ k < 11 := by
    rw [← Nat.pow_succ']
    refine ⟨fun h => ?_, fun h => ?_⟩
    · by_contra hk
      have hlarge : 2 ^ 12 ≤ 2 ^ (k + 1) := Nat.pow_le_pow_right Nat.two_pos (by omega)
      omega
    · have hsmall : 2 ^ (k + 1) ≤ 2 ^ 11 := Nat.pow_le_pow_right Nat.two_pos h
      omega
  omega

/-- A whole millisecond above a threshold is no less than what the code at that threshold denotes:
both are halved alike, and 3280 ms are no less than what the code 0x10 denotes. -/
theorem codeMicros_le_halved (h : code.toNat + k = 16) (hk : k ≤ 11) :
    codeMicros code ≤ 1000 * (halved k + 1) := by
  have hpow : 2 ^ (code.toNat - 1) * 2 ^ k = 2 ^ 15 := by
    rw [← Nat.pow_add]
    congr 1
    omega
  have habove : 3280 < (halved k + 1) * 2 ^ k := Nat.lt_mul_of_div_lt (Nat.lt_succ_self _)
    (Nat.two_pow_pos k)
  refine Nat.le_of_mul_le_mul_right ?_ (Nat.two_pow_pos k)
  calc codeMicros code * 2 ^ k = 100 * 2 ^ 15 := by rw [codeMicros, Nat.mul_assoc, hpow]
    _ ≤ 1000 * ((halved k + 1) * 2 ^ k) := by omega
    _ = 1000 * (halved k + 1) * 2 ^ k := (Nat.mul_assoc _ _ _).symm

theorem toNat_pred (h : 0 < code.toNat) : (code - 1).toNat = code.toNat - 1 :=
  UInt8.toNat_sub_of_le code 1 (UInt8.le_iff_toNat_le.mpr h)

/-! ## Where the loop ends -/

/-- A code behind `k` halvings: the timeout fits the thresholds so far. -/
structure Halving (ms : Int) (k : Nat) (code : UInt8) : Prop where
  count : code.toNat + k = 16
  le : k ≤ 11
  fits : ∀ j < k, ms ≤ halved j

/-- A code that is left as it is: the timeout exceeds the threshold, or that can not be halved any
more. -/
structure Ends (ms : Int) (k : Nat) (code : UInt8) : Prop extends Halving ms k code where
  exceeds : k = 11 ∨ halved k < ms

theorem Halving.next (h : Halving ms k code) (hmore : ¬ halved k ≤ 1) (hfits : ¬ halved k < ms) :
    Halving ms (k + 1) (code - 1) := by
  have hk : k < 11 := Nat.not_le.mp (halved_le_one_iff.not.mp hmore)
  have hcount := h.count
  have hpred : (code - 1).toNat = code.toNat - 1 := toNat_pred (by omega)
  refine ⟨by omega, hk, fun j hj => ?_⟩
  rcases Nat.lt_succ_iff_lt_or_eq.mp hj with hlt | rfl
  · exact h.fits j hlt
  · exact Int.not_lt.mp hfits

theorem Halving.ends (h : Halving ms k code) (hfuel : fuel + k = 12) :
    ∃ k', Ends ms k' (timeoutCodeFrom ms fuel code (halved k)) := by
  induction fuel generalizing k code with
  | zero =>
    have hle := h.le
    omega
  | succ fuel ih =>
    rw [timeoutCodeFrom]
    by_cases hlast : halved k ≤ 1
    · rw [if_pos hlast]
      exact ⟨k, h, .inl (Nat.le_antisymm h.le (halved_le_one_iff.mp hlast))⟩
    by_cases hexceeds : halved k < ms
    · rw [if_neg hlast, if_pos hexceeds]
      exact ⟨k, h, .inr hexceeds⟩
    · rw [if_neg hlast, if_neg hexceeds, ← halved_succ]
      exact ih (h.next hlast hexceeds) (by omega)

/-- The code of a timeout is where its loop ends. -/
theorem ends_timeoutCode (h : 0 < ms) : ∃ k, Ends ms k (timeoutCode ms) := by
  have hstart : Halving ms 0 0x10 := ⟨rfl, Nat.zero_le _, fun j hj => absurd hj (Nat.not_lt_zero j)⟩
  rw [timeoutCode, if_neg (Int.not_le.mpr h)]
  exact hstart.ends rfl

/-- A longer timeout fits no more thresholds. -/
theorem Ends.le_of_le (h : Ends ms k code) (h' : Ends ms' k' code') (hms : ms ≤ ms') :
    code ≤ code' := by
  have hk : k' ≤ k := by
    by_contra hlt
    have hfits := h'.fits k (Nat.not_le.mp hlt)
    have hexceeds := h.exceeds
    have hle := h'.le
    omega
  have hcount := h.count
  have hcount' := h'.count
  exact UInt8.le_iff_toNat_le.mpr (by omega)

theorem Ends.codeMicros_le (h : Ends ms k code) (hms : 2 ≤ ms) : codeMicros code ≤ 1000 * ms := by
  rcases h.exceeds with hlast | hexceeds
  · have hfive : code.toNat = 5 := by
      have hcount := h.count
      omega
    have hcode : codeMicros code = 100 * 2 ^ (5 - 1) := by rw [codeMicros, hfive]
    omega
  · have hmicros := codeMicros_le_halved h.count h.le
    omega

/-! ## The counter -/

/-- The loop once more, for as long as the threshold can be halved, and with the counter checked: it
can not be lowered below zero. -/
def timeoutCodeChecked? (ms : Int) (code : UInt8) (threshold : Nat) : Option UInt8 :=
  if threshold ≤ 1 then some code
  else if threshold < ms then some code
  else if code = 0 then none
  else timeoutCodeChecked? ms (code - 1) (threshold / 2)
termination_by threshold

/-- A threshold that is used up before the counter makes the check idle, and as many rounds as it
takes to use it up are enough. -/
theorem timeoutCodeChecked?_eq (hthreshold : threshold < 2 ^ fuel) (hcode : fuel ≤ code.toNat + 1) :
    timeoutCodeChecked? ms code threshold = some (timeoutCodeFrom ms fuel code threshold) := by
  induction fuel generalizing code threshold with
  | zero =>
    rw [timeoutCodeChecked?, if_pos (by omega), timeoutCodeFrom]
  | succ fuel ih =>
    rw [timeoutCodeChecked?, timeoutCodeFrom]
    by_cases hlast : threshold ≤ 1
    · rw [if_pos hlast, if_pos hlast]
    by_cases hexceeds : threshold < ms
    · rw [if_neg hlast, if_neg hlast, if_pos hexceeds, if_pos hexceeds]
    · -- one more round is left for what the threshold can still be halved to
      have hfuel : fuel ≠ 0 := by
        rintro rfl
        omega
      have hpos : 0 < code.toNat := by omega
      have hne : code ≠ 0 := fun h => Nat.ne_of_gt hpos (congrArg UInt8.toNat h)
      have hpred : (code - 1).toNat = code.toNat - 1 := toNat_pred hpos
      rw [if_neg hlast, if_neg hlast, if_neg hexceeds, if_neg hexceeds, if_neg hne]
      exact ih (by omega) (by omega)

/-- **The code of a timeout is zero for none, and one of the twelve codes up to 0x10 for any
other**, found without a counter that falls below zero.  No timeout has a smaller code than a
shorter one, and from 2 ms on no code denotes more than the timeout it stands for. -/
theorem timeoutCode_denotes (ms : Int) :
    (ms ≤ 0 → timeoutCode ms = 0x00) ∧
      (0 < ms → 0x05 ≤ timeoutCode ms ∧ timeoutCode ms ≤ 0x10 ∧
        timeoutCodeChecked? ms 0x10 3280 = some (timeoutCode ms)) ∧
      (∀ ms', ms ≤ ms' → timeoutCode ms ≤ timeoutCode ms') ∧
      (2 ≤ ms → codeMicros (timeoutCode ms) ≤ 1000 * ms) := by
  have hnone {ms : Int} (h : ms ≤ 0) : timeoutCode ms = 0x00 := if_pos h
  refine ⟨hnone, fun hpos => ?_, fun ms' hle => ?_, fun hms => ?_⟩
  · obtain ⟨k, hends⟩ := ends_timeoutCode hpos
    have hcount := hends.count
    have hle := hends.le
    have hfive : 5 ≤ (timeoutCode ms).toNat := by omega
    have hsixteen : (timeoutCode ms).toNat ≤ 16 := by omega
    refine ⟨UInt8.le_iff_toNat_le.mpr hfive, UInt8.le_iff_toNat_le.mpr hsixteen, ?_⟩
    rw [timeoutCode, if_neg (Int.not_le.mpr hpos)]
    exact timeoutCodeChecked?_eq (by decide) (by decide)
  · by_cases hpos : 0 < ms
    · obtain ⟨k, hends⟩ := ends_timeoutCode hpos
      obtain ⟨k', hends'⟩ := ends_timeoutCode (Int.lt_of_lt_of_le hpos hle)
      exact hends.le_of_le hends' hle
    · rw [hnone (Int.not_lt.mp hpos)]
      exact UInt8.le_iff_toNat_le.mpr (Nat.zero_le _)
  · obtain ⟨k, hends⟩ := ends_timeoutCode (Int.lt_of_lt_of_le (by decide) hms)
    exact hends.codeMicros_le hms

/-- A default of 52 ms is just above a threshold, and 51.2 ms are what its code denotes. -/
theorem timeoutCode_denotes_default :
    (0 : Int) < 52 ∧ (0x05 ≤ timeoutCode 52 ∧ timeoutCode 52 ≤ 0x10 ∧
        timeoutCodeChecked? 52 0x10 3280 = some (timeoutCode 52)) ∧
      timeoutCode 52 ≤ timeoutCode 103 ∧ codeMicros (timeoutCode 52) ≤ 1000 * (52 : Int) ∧
      codeMicros (timeoutCode 52) = 51200 ∧ timeoutCode (-5) = 0x00 := by
  refine ⟨by decide, ?_, ?_, ?_, rfl, ?_⟩
  · exact (timeoutCode_denotes 52).2.1 (by decide)
  · exact (timeoutCode_denotes 52).2.2.1 103 (by decide)
  · exact (timeoutCode_denotes 52).2.2.2 (by decide)
  · exact (timeoutCode_denotes (-5)).1 (by decide)

end NearField.Pn53x
