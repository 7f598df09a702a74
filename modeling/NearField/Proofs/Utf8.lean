import Mathlib.Data.List.Basic
import NearField.Utf8

/-!
# Texts as bytes

The bytes of a text are those of its characters, one after the other (`encode_eq`).  An ASCII
character is one byte, its own number (`encodeChar_of_lt`), and every byte of any other character
is 0x80 or more (`le_of_mem_encodeChar`).  So bytes are all ASCII if and only if the characters are
(`encodeChars_of_ascii`, `ascii_of_encodeChars`), and a question about ASCII characters can be asked
of their bytes.
-/

namespace NearField.Utf8

/-- The bytes of a character. -/
abbrev encodeChar (c : Char) : Bytes := String.utf8EncodeChar c

/-- The bytes of characters, one after the other. -/
def encodeChars (cs : List Char) : Bytes := cs.flatMap encodeChar

theorem toList_loop (bytes : ByteArray) (i : Nat) (seen : Bytes) :
    ByteArray.toList.loop bytes i seen = seen.reverse ++ bytes.data.toList.drop i := by
  fun_induction ByteArray.toList.loop bytes i seen with
  | case1 i seen hlt ih =>
      have hlength : i < bytes.data.toList.length := by simpa using hlt
      rw [ih, List.drop_eq_getElem_cons hlength]
      simp [ByteArray.get!, hlt]
  | case2 i seen hge =>
      rw [List.drop_eq_nil_of_le (by simpa using Nat.le_of_not_lt hge), List.append_nil]

theorem toList_eq (bytes : ByteArray) : bytes.toList = bytes.data.toList := by
  rw [ByteArray.toList, toList_loop]
  rfl

/-- **The bytes of a text** are those of its characters. -/
theorem encode_eq (s : String) : encode s = encodeChars s.toList := by
  have hbytes : s.toUTF8 = s.toList.utf8Encode := by
    conv_lhs => rw [← String.ofList_toList (s := s)]
    exact String.toByteArray_ofList
  rw [encode, hbytes, toList_eq, List.utf8Encode, List.toList_data_toByteArray]
  rfl

/-! ## ASCII -/

/-- What holds of the character of each number below 128 holds of each ASCII character. -/
theorem forall_ascii {P : Char → Prop} (h : ∀ n < 128, P (Char.ofNat n)) (c : Char)
    (hc : c.toNat < 128) : P c := by
  have hc' := h c.toNat hc
  rwa [Char.ofNat_toNat] at hc'

/-- **An ASCII character is one byte.** -/
theorem encodeChar_of_lt {c : Char} (hc : c.toNat < 128) : encodeChar c = [c.toUInt8] :=
  forall_ascii (P := fun c => encodeChar c = [c.toUInt8]) (by decide) c hc

/-- **Every byte of another character is out of the range of ASCII**, whether it leads or
continues the character. -/
theorem le_of_mem_encodeChar {c : Char} (hc : 128 ≤ c.toNat) {b : UInt8}
    (hb : b ∈ encodeChar c) : 0x80 ≤ b := by
  have hmarked (x mark : UInt8) (h : 0x80 ≤ mark) : 0x80 ≤ x ||| mark :=
    UInt8.le_trans h UInt8.right_le_or
  rcases Char.utf8Size_eq c with h | h | h | h
  · have hone : c.toNat ≤ 127 := UInt32.le_iff_toNat_le.mp (Char.utf8Size_eq_one_iff.mp h)
    omega
  · rw [encodeChar, String.utf8EncodeChar_eq_cons_cons h] at hb
    simp only [List.mem_cons, List.not_mem_nil, or_false] at hb
    rcases hb with rfl | rfl <;> exact hmarked _ _ (by decide)
  · rw [encodeChar, String.utf8EncodeChar_eq_cons_cons_cons h] at hb
    simp only [List.mem_cons, List.not_mem_nil, or_false] at hb
    rcases hb with rfl | rfl | rfl <;> exact hmarked _ _ (by decide)
  · rw [encodeChar, String.utf8EncodeChar_eq_cons_cons_cons_cons h] at hb
    simp only [List.mem_cons, List.not_mem_nil, or_false] at hb
    rcases hb with rfl | rfl | rfl | rfl <;> exact hmarked _ _ (by decide)

/-- Characters that are all ASCII are one byte each. -/
theorem encodeChars_of_ascii {cs : List Char} (h : ∀ c ∈ cs, c.toNat < 128) :
    encodeChars cs = cs.map Char.toUInt8 := by
  induction cs with
  | nil => rfl
  | cons c cs ih =>
      obtain ⟨hc, hcs⟩ := List.forall_mem_cons.mp h
      rw [encodeChars, List.flatMap_cons, encodeChar_of_lt hc]
      exact congrArg (c.toUInt8 :: ·) (ih hcs)

/-- Bytes that are all ASCII are those of characters that are. -/
theorem ascii_of_encodeChars {cs : List Char} (h : ∀ b ∈ encodeChars cs, b < 0x80) :
    ∀ c ∈ cs, c.toNat < 128 := by
  intro c hc
  by_contra hlarge
  obtain ⟨b, hb⟩ := List.exists_mem_of_ne_nil (encodeChar c) String.utf8EncodeChar_ne_nil
  have hlow : b < 0x80 := h b (List.mem_flatMap.mpr ⟨c, hc, hb⟩)
  exact UInt8.not_le.mpr hlow (le_of_mem_encodeChar (Nat.not_lt.mp hlarge) hb)

/-- Bytes of ASCII characters have no fault. -/
theorem faultFrom?_of_ascii {bs : Bytes} (h : ∀ b ∈ bs, b < 0x80) (position : Nat) :
    faultFrom? position bs = none := by
  induction bs generalizing position with
  | nil => rw [faultFrom?]
  | cons b bs ih =>
      obtain ⟨hb, hbs⟩ := List.forall_mem_cons.mp h
      have hstep : step b bs = .char (Char.ofNat b.toNat) 1 := by rw [step, if_pos hb]
      rw [faultFrom?, hstep]
      exact ih hbs _

/-- To leave out bytes is to leave out characters, where a test tells ASCII characters from
each other and keeps every byte that is out of their range. -/
theorem filter_encodeChars {keep : UInt8 → Bool} {keepChar : Char → Bool}
    (hascii : ∀ c : Char, c.toNat < 128 → keep c.toUInt8 = keepChar c)
    (hhigh : ∀ b : UInt8, 0x80 ≤ b → keep b = true)
    (hother : ∀ c : Char, 128 ≤ c.toNat → keepChar c = true) (cs : List Char) :
    (encodeChars cs).filter keep = encodeChars (cs.filter keepChar) := by
  have hchar (c : Char) : (encodeChar c).filter keep = if keepChar c then encodeChar c else [] := by
    rcases Nat.lt_or_ge c.toNat 128 with hc | hc
    · rw [encodeChar_of_lt hc, List.filter_singleton, hascii c hc]
      cases keepChar c <;> rfl
    · rw [hother c hc, if_pos rfl, List.filter_eq_self]
      exact fun b hb => hhigh b (le_of_mem_encodeChar hc hb)
  induction cs with
  | nil => rfl
  | cons c cs ih =>
      rw [encodeChars, List.flatMap_cons, List.filter_append, hchar, List.filter_cons]
      cases keepChar c
      · exact ih
      · exact congrArg (encodeChar c ++ ·) ih

end NearField.Utf8
