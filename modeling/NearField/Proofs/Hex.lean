import Mathlib.Data.List.Induction
import NearField.Hex
import NearField.Proofs.Utf8

/-!
# Hexadecimal text and its bytes

A text in hexadecimal is made of digits of either case, evenly many, between which ASCII whitespace
is of no account; each pair of digits denotes a byte (`Denotes`).

Reading cuts pairs from the bytes of a text, and reads each as a number.  Such a number may have a
sign: the first of a pair may be a `+`, and then the second alone is the byte (`Reads`).  So a text
is read as its digits say exactly if it has no `+` or is not read at all (`parse_agrees_iff`).
Characters of more than one byte are never read, wherever a pair cuts them.

What is written is read back, with spaces between the bytes and without
(`parse_compact_and_spaced`).
-/

namespace NearField.Hex

open Utf8

/-! ## Digits and pairs -/

/-- The value of a hexadecimal digit of either case. -/
def digitValue? (c : Char) : Option Nat :=
  if '0' ≤ c ∧ c ≤ '9' then some (c.toNat - '0'.toNat)
  else if 'A' ≤ c ∧ c ≤ 'F' then some (c.toNat - 'A'.toNat + 10)
  else if 'a' ≤ c ∧ c ≤ 'f' then some (c.toNat - 'a'.toNat + 10)
  else none

/-- What the first of a pair adds to it where signs are let through. -/
def leadingValue? (c : Char) : Option Nat := if c = '+' then some 0 else digitValue? c

/-- Characters in pairs, and the bytes that they stand for; `lead?` says what may be the first of a
pair. -/
inductive Pairs (lead? : Char → Option Nat) : List Char → Bytes → Prop
  | nil : Pairs lead? [] []
  | pair {x y : Char} {high low : Nat} {cs : List Char} {bs : Bytes} (hx : lead? x = some high)
      (hy : digitValue? y = some low) (hrest : Pairs lead? cs bs) :
      Pairs lead? (x :: y :: cs) (UInt8.ofNat (16 * high + low) :: bs)

/-- The bytes that pairs of digits denote. -/
abbrev Denotes : List Char → Bytes → Prop := Pairs digitValue?

/-- The bytes that are read of pairs. -/
abbrev Reads : List Char → Bytes → Prop := Pairs leadingValue?

/-- Space, tab, line feed, form feed and carriage return. -/
def isWhitespace (c : Char) : Bool := [' ', '\t', '\n', '\x0C', '\r'].contains c

/-- The characters of a text that are no whitespace. -/
def significant (s : String) : List Char := s.toList.filter fun c => !isWhitespace c

/-- Only digits, and evenly many. -/
def IsHexadecimal (cs : List Char) : Prop :=
  cs.length % 2 = 0 ∧ ∀ c ∈ cs, (digitValue? c).isSome

variable {lead? : Char → Option Nat} {x y : Char} {cs : List Char} {bs : Bytes}

@[simp] theorem not_pairs_singleton : ¬ Pairs lead? [x] bs := nofun

@[simp] theorem pairs_nil_iff : Pairs lead? [] bs ↔ bs = [] := by
  constructor
  · rintro ⟨⟩
    rfl
  · rintro rfl
    exact .nil

theorem pairs_cons_cons_iff : Pairs lead? (x :: y :: cs) bs ↔ ∃ high low bs',
    lead? x = some high ∧ digitValue? y = some low ∧ Pairs lead? cs bs' ∧
      UInt8.ofNat (16 * high + low) :: bs' = bs := by
  constructor
  · rintro (_ | ⟨hx, hy, hrest⟩)
    exact ⟨_, _, _, hx, hy, hrest, rfl⟩
  · rintro ⟨high, low, bs', hx, hy, hrest, rfl⟩
    exact .pair hx hy hrest

theorem Pairs.even (h : Pairs lead? cs bs) : cs.length % 2 = 0 := by
  induction h with
  | nil => rfl
  | @pair _ _ _ _ cs _ _ _ _ ih => exact (Nat.add_mod_right cs.length 2).trans ih

/-- Every character has its part in a pair. -/
theorem Pairs.isSome (h : Pairs lead? cs bs) :
    ∀ c ∈ cs, (lead? c).isSome ∨ (digitValue? c).isSome := by
  induction h with
  | nil => exact List.forall_mem_nil _
  | pair hx hy _ ih =>
      have hfirst := Option.isSome_iff_exists.mpr ⟨_, hx⟩
      have hsecond := Option.isSome_iff_exists.mpr ⟨_, hy⟩
      exact List.forall_mem_cons.mpr ⟨.inl hfirst, List.forall_mem_cons.mpr ⟨.inr hsecond, ih⟩⟩

/-- Pairs stand for the same bytes where another rule says the same about the characters. -/
theorem Pairs.of_leads {lead'? : Char → Option Nat} (h : Pairs lead? cs bs)
    (hle : ∀ c ∈ cs, ∀ n, lead? c = some n → lead'? c = some n) : Pairs lead'? cs bs := by
  induction h with
  | nil => exact .nil
  | pair hx hy _ ih =>
      obtain ⟨hfirst, hsecond⟩ := List.forall_mem_cons.mp hle
      exact .pair (hfirst _ hx) hy (ih (List.forall_mem_cons.mp hsecond).2)

/-- Digits denote bytes exactly if they are evenly many. -/
theorem exists_denotes_iff (cs : List Char) : (∃ bs, Denotes cs bs) ↔ IsHexadecimal cs := by
  constructor
  · rintro ⟨bs, h⟩
    exact ⟨h.even, fun c hc => or_self_iff.mp (h.isSome c hc)⟩
  · induction cs using List.twoStepInduction with
    | nil => exact fun _ => ⟨[], .nil⟩
    | singleton x => exact fun h => absurd h.1 (by simp)
    | cons_cons x y cs ih =>
        rintro ⟨hlength, hdigits⟩
        obtain ⟨hx, hdigits⟩ := List.forall_mem_cons.mp hdigits
        obtain ⟨hy, hdigits⟩ := List.forall_mem_cons.mp hdigits
        obtain ⟨high, hx⟩ := Option.isSome_iff_exists.mp hx
        obtain ⟨low, hy⟩ := Option.isSome_iff_exists.mp hy
        have heven : cs.length % 2 = 0 := (Nat.add_mod_right cs.length 2).symm.trans hlength
        obtain ⟨bs, hdenotes⟩ := ih ⟨heven, hdigits⟩
        exact ⟨_, .pair hx hy hdenotes⟩

/-- What pairs of digits denote is read of them, and other pairs are only read if there is a
sign. -/
theorem denotes_iff : Denotes cs bs ↔ Reads cs bs ∧ '+' ∉ cs := by
  have hsign : digitValue? '+' = none := by decide
  have hplain {c : Char} (h : c ≠ '+') : leadingValue? c = digitValue? c := if_neg h
  constructor
  · intro h
    have hnone : '+' ∉ cs := by
      intro hmem
      have hsome := or_self_iff.mp (h.isSome '+' hmem)
      rw [hsign] at hsome
      cases hsome
    refine ⟨h.of_leads fun c hc n hn => ?_, hnone⟩
    rwa [hplain (ne_of_mem_of_not_mem hc hnone)]
  · rintro ⟨h, hnone⟩
    refine h.of_leads fun c hc n hn => ?_
    rwa [hplain (ne_of_mem_of_not_mem hc hnone)] at hn

/-! ## Reading -/

theorem lt_of_value? {b : UInt8} {n : Nat} (h : value? b = some n) : b < 0x80 := by
  have hall : ∀ m < 256, (value? (UInt8.ofNat m)).isSome → UInt8.ofNat m < 0x80 := by
    decide +kernel
  have hb := hall b.toNat b.toNat_lt
  rw [UInt8.ofNat_toNat, h] at hb
  exact hb rfl

theorem value?_toUInt8 (c : Char) (hc : c.toNat < 128) : value? c.toUInt8 = digitValue? c :=
  forall_ascii (P := fun c => value? c.toUInt8 = digitValue? c) (by decide) c hc

theorem pairValue?_toUInt8 (hx : x.toNat < 128) (hy : y.toNat < 128) {b : UInt8} :
    pairValue? x.toUInt8 y.toUInt8 = some b ↔ ∃ high low, leadingValue? x = some high ∧
      digitValue? y = some low ∧ UInt8.ofNat (16 * high + low) = b := by
  have hsign : x.toUInt8 = 0x2B ↔ x = '+' :=
    forall_ascii (P := fun c => c.toUInt8 = 0x2B ↔ c = '+') (by decide) x hx
  rw [pairValue?, value?_toUInt8 x hx, value?_toUInt8 y hy, leadingValue?]
  cases digitValue? y with
  | none => simp
  | some low =>
      by_cases h : x = '+'
      · rw [if_pos h]
        simp [hsign.mpr h]
      · simp [hsign, h]

/-- A pair is made of ASCII. -/
theorem lt_of_pairValue? {x y b : UInt8} (h : pairValue? x y = some b) : x < 0x80 ∧ y < 0x80 := by
  unfold pairValue? at h
  split at h
  · cases h
  · rename_i low hy
    refine ⟨?_, lt_of_value? hy⟩
    by_cases hx : x == 0x2B
    · rw [beq_iff_eq.mp hx]
      decide
    · rw [if_neg hx] at h
      obtain ⟨high, hhigh, -⟩ := Option.map_eq_some_iff.mp h
      exact lt_of_value? hhigh

/-- A pair that has a value is never cut out of a character. -/
theorem parsePair_eq_ok_iff {x y b : UInt8} : parsePair x y = .ok b ↔ pairValue? x y = some b := by
  unfold parsePair
  cases h : pairValue? x y with
  | none => cases fault? [x, y] <;> simp
  | some value =>
      obtain ⟨hx, hy⟩ := lt_of_pairValue? h
      have hfault : fault? [x, y] = none := faultFrom?_of_ascii (by simp [hx, hy]) 0
      simp [hfault]

theorem parsePairs_cons_cons {x y : UInt8} {rest : Bytes} :
    parsePairs (x :: y :: rest) = .ok bs ↔ ∃ b bs', pairValue? x y = some b ∧
      parsePairs rest = .ok bs' ∧ b :: bs' = bs := by
  simp only [← parsePair_eq_ok_iff]
  rw [parsePairs]
  cases parsePair x y with
  | error f => simp
  | ok b => cases parsePairs rest <;> simp

theorem ascii_of_parsePairs : ∀ {bytes bs : Bytes}, parsePairs bytes = .ok bs →
    ∀ b ∈ bytes, b < 0x80
  | [], _, _ => List.forall_mem_nil _
  | [_], _, h => by cases h
  | x :: y :: rest, bs, h => by
      obtain ⟨b, bs', hpair, hrest, -⟩ := parsePairs_cons_cons.mp h
      obtain ⟨hx, hy⟩ := lt_of_pairValue? hpair
      have hlater := ascii_of_parsePairs hrest
      exact List.forall_mem_cons.mpr ⟨hx, List.forall_mem_cons.mpr ⟨hy, hlater⟩⟩

theorem ascii_of_digitValue? {c : Char} {n : Nat} (h : digitValue? c = some n) :
    c.toNat < 128 := by
  have hle (d : Char) (hd : d.toNat < 128) (hc : c ≤ d) : c.toNat < 128 :=
    Nat.lt_of_le_of_lt (UInt32.le_iff_toNat_le.mp hc) hd
  unfold digitValue? at h
  split at h
  · rename_i hrange
    exact hle '9' (by decide) hrange.2
  split at h
  · rename_i hrange
    exact hle 'F' (by decide) hrange.2
  split at h
  · rename_i hrange
    exact hle 'f' (by decide) hrange.2
  · cases h

theorem ascii_of_reads (h : Reads cs bs) : ∀ c ∈ cs, c.toNat < 128 := by
  intro c hc
  by_cases hsign : c = '+'
  · rw [hsign]
    decide
  · have hsome := h.isSome c hc
    rw [leadingValue?, if_neg hsign, or_self_iff] at hsome
    obtain ⟨n, hn⟩ := Option.isSome_iff_exists.mp hsome
    exact ascii_of_digitValue? hn

theorem parsePairs_map : ∀ {cs : List Char} {bs : Bytes}, (∀ c ∈ cs, c.toNat < 128) →
    (parsePairs (cs.map Char.toUInt8) = .ok bs ↔ Reads cs bs)
  | [], bs, _ => by simp [parsePairs, eq_comm]
  | [x], bs, _ => iff_of_false nofun not_pairs_singleton
  | x :: y :: cs, bs, h => by
      obtain ⟨hx, h⟩ := List.forall_mem_cons.mp h
      obtain ⟨hy, h⟩ := List.forall_mem_cons.mp h
      refine parsePairs_cons_cons.trans (Iff.trans ?_ pairs_cons_cons_iff.symm)
      simp only [pairValue?_toUInt8 hx hy, parsePairs_map h]
      constructor
      · rintro ⟨_, bs', ⟨high, low, hhigh, hlow, rfl⟩, hrest, rfl⟩
        exact ⟨high, low, bs', hhigh, hlow, hrest, rfl⟩
      · rintro ⟨high, low, bs', hhigh, hlow, hrest, rfl⟩
        exact ⟨_, bs', ⟨high, low, hhigh, hlow, rfl⟩, hrest, rfl⟩

/-- Pairs are read of the characters, whatever bytes these take. -/
theorem parsePairs_encodeChars : parsePairs (encodeChars cs) = .ok bs ↔ Reads cs bs := by
  constructor
  · intro h
    have hascii : ∀ c ∈ cs, c.toNat < 128 := ascii_of_encodeChars (ascii_of_parsePairs h)
    rw [encodeChars_of_ascii hascii] at h
    exact (parsePairs_map hascii).mp h
  · intro h
    have hascii := ascii_of_reads h
    rw [encodeChars_of_ascii hascii]
    exact (parsePairs_map hascii).mpr h

/-- Blanks are left out of the bytes of a text as whitespace is of its characters. -/
theorem filter_encode (s : String) :
    (encode s).filter (fun b => !isBlank b) = encodeChars (significant s) := by
  rw [encode_eq]
  refine filter_encodeChars (fun c hc => ?_) (fun b hb => ?_) (fun c hc => ?_) s.toList
  · exact forall_ascii (P := fun c => (!isBlank c.toUInt8) = !isWhitespace c) (by decide) c hc
  · have hne (b' : UInt8) (h : b' < 0x80) : b ≠ b' := fun he =>
      UInt8.not_le.mpr h (he ▸ hb)
    simp [isBlank, hne]
  · have hne (c' : Char) (h : c'.toNat < 128) : c ≠ c' := fun he =>
      Nat.not_le.mpr h (he ▸ hc)
    simp [isWhitespace, hne]

/-- **What is read of a text** are the pairs of its characters, without its whitespace. -/
theorem parse_eq_ok_iff {s : String} : parse s = .ok bs ↔ Reads (significant s) bs := by
  rw [parse, parseBytes, filter_encode, ← parsePairs_encodeChars]
  by_cases hodd : (encodeChars (significant s)).length % 2 = 1
  · rw [if_pos hodd]
    refine iff_of_false nofun fun h => ?_
    have hreads := parsePairs_encodeChars.mp h
    rw [encodeChars_of_ascii (ascii_of_reads hreads), List.length_map, hreads.even] at hodd
    cases hodd
  · rw [if_neg hodd]

/-- Reading is as the digits of a text say: it succeeds exactly if there is nothing but digits,
evenly many, and then with the bytes that they denote. -/
def Agrees (s : String) : Prop :=
  ((∃ bs, parse s = .ok bs) ↔ IsHexadecimal (significant s)) ∧
    ∀ bs, parse s = .ok bs → Denotes (significant s) bs

/-- Some pairs of a text are read, and a sign is among them. -/
def Signed (s : String) : Prop := '+' ∈ significant s ∧ ∃ bs, Reads (significant s) bs

/-- **Reading is as the digits say, unless a sign is read.** -/
theorem parse_agrees_iff (s : String) :
    (∀ bs, parse s = .ok bs ↔ Reads (significant s) bs) ∧ (Agrees s ↔ ¬ Signed s) := by
  refine ⟨fun bs => parse_eq_ok_iff, ?_⟩
  constructor
  · rintro ⟨-, h⟩ ⟨hsign, bs, hreads⟩
    exact (denotes_iff.mp (h bs (parse_eq_ok_iff.mpr hreads))).2 hsign
  · intro hplain
    have hdenotes (bs : Bytes) : parse s = .ok bs ↔ Denotes (significant s) bs := by
      rw [parse_eq_ok_iff, denotes_iff]
      exact ⟨fun h => ⟨h, fun hsign => hplain ⟨hsign, bs, h⟩⟩, And.left⟩
    refine ⟨?_, fun bs => (hdenotes bs).mp⟩
    simp only [hdenotes, exists_denotes_iff]

/-- A sign and a digit are read as a byte, where there should be two digits. -/
theorem parse_not_agrees : parse "+f" = .ok [0x0F] ∧ significant "+f" = ['+', 'f'] ∧
    ¬ Agrees "+f" := by
  have hsignificant : significant "+f" = ['+', 'f'] := by decide +kernel
  have hreads : Reads ['+', 'f'] [UInt8.ofNat (16 * 0 + 15)] := .pair rfl (by decide) .nil
  have hparse : parse "+f" = .ok [0x0F] := by
    rw [parse_eq_ok_iff, hsignificant]
    exact hreads
  refine ⟨hparse, hsignificant, fun h => ?_⟩
  have hdenotes := h.2 _ hparse
  rw [hsignificant, denotes_iff] at hdenotes
  exact hdenotes.2 List.mem_cons_self

/-! ## Writing -/

/-- The digits of a byte are kept when whitespace is left out. -/
theorem filter_pair (b : UInt8) : (pair b).filter (fun c => !isWhitespace c) = pair b := by
  have hall : ∀ n < 16, isWhitespace (digit n) = false := by decide
  have hhigh := hall (b.toNat / 16) (Nat.div_lt_of_lt_mul b.toNat_lt)
  have hlow := hall (b.toNat % 16) (Nat.mod_lt _ (by decide))
  simp [pair, hhigh, hlow]

theorem filter_compactChars (bs : Bytes) :
    (compactChars bs).filter (fun c => !isWhitespace c) = compactChars bs := by
  simp only [compactChars, List.filter_flatMap, filter_pair]

/-- What stands between the bytes is whitespace. -/
theorem filter_spacedChars : ∀ bs : Bytes,
    (spacedChars bs).filter (fun c => !isWhitespace c) = compactChars bs
  | [] => rfl
  | [b] => by
      rw [spacedChars, filter_pair]
      exact (List.append_nil _).symm
  | b :: b' :: rest => by
      have hspace : (' ' :: spacedChars (b' :: rest)).filter (fun c => !isWhitespace c) =
          compactChars (b' :: rest) :=
        (List.filter_cons_of_neg (by decide)).trans (filter_spacedChars (b' :: rest))
      have hspaced : spacedChars (b :: b' :: rest) = pair b ++ ' ' :: spacedChars (b' :: rest) :=
        rfl
      rw [hspaced, List.filter_append, filter_pair, hspace]
      rfl

theorem denotes_compactChars (bs : Bytes) : Denotes (compactChars bs) bs := by
  have hdigit : ∀ n < 16, digitValue? (digit n) = some n := by decide
  induction bs with
  | nil => exact .nil
  | cons b bs ih =>
      have hhigh := hdigit (b.toNat / 16) (Nat.div_lt_of_lt_mul b.toNat_lt)
      have hlow := hdigit (b.toNat % 16) (Nat.mod_lt _ (by decide))
      have hpair : Denotes (compactChars (b :: bs)) _ := .pair hhigh hlow ih
      rwa [Nat.div_add_mod, UInt8.ofNat_toNat] at hpair

/-- A text whose characters are those of written bytes, but for whitespace, is read to them. -/
theorem parse_of_significant {s : String} (h : significant s = compactChars bs) :
    parse s = .ok bs := by
  rw [parse_eq_ok_iff, h]
  exact (denotes_iff.mp (denotes_compactChars bs)).1

/-- **What is written is read back**, with spaces between the bytes and without. -/
theorem parse_compact_and_spaced (bs : Bytes) :
    parse (compact bs) = .ok bs ∧ parse (spaced bs) = .ok bs := by
  have hcompact : significant (compact bs) = compactChars bs := by
    rw [significant, compact, String.toList_ofList, filter_compactChars]
  have hspaced : significant (spaced bs) = compactChars bs := by
    rw [significant, spaced, String.toList_ofList, filter_spacedChars]
  exact ⟨parse_of_significant hcompact, parse_of_significant hspaced⟩

end NearField.Hex
