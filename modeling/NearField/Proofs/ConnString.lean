import NearField.ConnString
import NearField.Proofs.Act

/-!
# Whom a connection string means

A connection string means the drivers whose short name it starts with.  One that starts with
`usb` also means those whose short name ends in `_usb`.  The short name is as much of a name as
fits 64 bytes (`ShortName`), which is what `cut` leaves of it, so `matchesDriver` decides who is
meant (`matchesDriver_iff`).
-/

namespace NearField.ConnString

variable {σ : Type} {room : Nat} {front cs : List Char} {c : ConnString} {name : String}

/-- A connection string is its text. -/
theorem text_inj {c c' : ConnString} : c.text = c'.text ↔ c = c' := by
  cases c
  cases c'
  rw [mk.injEq]

/-- A text is a connection string if it passes both tests. -/
theorem exists_text_iff_all {text : String} :
    (∃ c : ConnString, c.text = text) ↔
      text.utf8ByteSize < 1024 ∧ text.toList.all isPrintable = true := by
  refine ⟨?_, fun ⟨hshort, hall⟩ => ⟨⟨text, hshort, hall⟩, rfl⟩⟩
  rintro ⟨c, rfl⟩
  exact ⟨c.short, c.printable⟩

instance (text : String) : Decidable (∃ c : ConnString, c.text = text) :=
  decidable_of_iff _ exists_text_iff_all.symm

/-- A text is a connection string if it is short and printable. -/
theorem exists_text_iff {text : String} :
    (∃ c : ConnString, c.text = text) ↔
      text.utf8ByteSize < 1024 ∧ ∀ x ∈ text.toList, 0x20 ≤ x.toNat ∧ x.toNat ≤ 0x7E := by
  simp [exists_text_iff_all, isPrintable]

/-- The text of a connection string passes the check once more. -/
theorem yields_new (c : ConnString) (s : σ) : (new c.text : Op σ ConnString).Yields s c s := by
  have hchecked : ofString c.text = .ok c := by
    rw [ofString, dif_pos c.short, dif_pos c.printable]
  rw [Act.Yields, new, hchecked]
  exact ⟨rfl, rfl⟩

/-- A text passes the check as the connection string of that text, if there is one. -/
theorem new_eq_ok_iff {text : String} {s : σ} :
    ((new text : Op σ ConnString) s).result = .ok c ↔ c.text = text := by
  refine ⟨fun h => ?_, ?_⟩
  · unfold new at h
    split at h
    · rename_i c' hc
      obtain rfl : c' = c := Except.ok.inj h
      unfold ofString at hc
      split at hc
      · split at hc <;> cases hc
        rfl
      · cases hc
    · cases h
  · rintro rfl
    exact (yields_new c s).1

/-- The length of a text is checked beforehand as well, which is of no account. -/
theorem checkSize_bind_eq_ok_iff {text : String} {s : σ} {f : Unit → Op σ ConnString}
    (hf : ∀ c, (f () s).result = .ok c ↔ c.text = text) :
    ((checkSize text >>= f) s).result = .ok c ↔ c.text = text := by
  unfold checkSize
  by_cases h : text.utf8ByteSize < capacity
  · have hpasses : (pure () : Op σ Unit).Yields s () s := ⟨rfl, rfl⟩
    rw [if_pos h, (hpasses.bind f).1, hf]
  · rw [if_neg h]
    exact iff_of_false nofun fun htext => h (htext ▸ c.short)

/-! ## Short names -/

theorem byteSize_cons (x : Char) (cs : List Char) :
    byteSize (x :: cs) = x.utf8Size + byteSize cs := rfl

theorem cut_front (room : Nat) (cs : List Char) : cut room cs <+: cs := by
  induction cs generalizing room with
  | nil => exact List.nil_prefix
  | cons x cs ih =>
      unfold cut
      by_cases h : x.utf8Size ≤ room
      · rw [if_pos h]
        exact List.cons_prefix_cons.mpr ⟨rfl, ih _⟩
      · rw [if_neg h]
        exact List.nil_prefix

theorem byteSize_cut_le (room : Nat) (cs : List Char) : byteSize (cut room cs) ≤ room := by
  induction cs generalizing room with
  | nil => exact Nat.zero_le _
  | cons x cs ih =>
      unfold cut
      by_cases h : x.utf8Size ≤ room
      · rw [if_pos h, byteSize_cons]
        have := ih (room - x.utf8Size)
        omega
      · rw [if_neg h]
        exact Nat.zero_le _

/-- Nothing longer fits at the front. -/
theorem front_cut (hfront : front <+: cs) (hfits : byteSize front ≤ room) :
    front <+: cut room cs := by
  induction front generalizing room cs with
  | nil => exact List.nil_prefix
  | cons x front ih =>
      obtain ⟨rest, rfl⟩ := hfront
      rw [byteSize_cons] at hfits
      have hx : x.utf8Size ≤ room := by omega
      rw [List.cons_append, cut, if_pos hx, List.cons_prefix_cons]
      exact ⟨rfl, ih (List.prefix_append _ _) (by omega)⟩

/-- The longest text at the front of a name that takes at most 64 bytes. -/
structure ShortName (name : String) (short : List Char) : Prop where
  atFront : short <+: name.toList
  fits : byteSize short ≤ 64
  longest : ∀ front, front <+: name.toList → byteSize front ≤ 64 → front <+: short

theorem shortName_cut (name : String) : ShortName name (cut maxDriverName name.toList) :=
  ⟨cut_front _ _, byteSize_cut_le _ _, fun _ => front_cut⟩

theorem ShortName.eq_cut {short : List Char} (h : ShortName name short) :
    short = cut maxDriverName name.toList := by
  -- each of the two is at the front of the other
  have hcut := shortName_cut name
  have hle := (hcut.longest short h.atFront h.fits).length_le
  exact (h.longest _ hcut.atFront hcut.fits).eq_of_length_le hle |>.symm

/-! ## Who is meant -/

/-- The string asks for any USB driver. -/
def AsksUsb (c : ConnString) : Prop := "usb".toList <+: c.text.toList

/-- The string means the driver of this name. -/
def Means (c : ConnString) (name : String) : Prop :=
  ∃ short, ShortName name short ∧
    (short <+: c.text.toList ∨ c.AsksUsb ∧ "_usb".toList <:+ short)

theorem isUsbRequest_iff : c.isUsbRequest = true ↔ c.AsksUsb := List.isPrefixOf_iff_prefix

/-- **A driver is asked if it is meant.** -/
theorem matchesDriver_iff : c.matchesDriver name = true ↔ c.Means name := by
  have hmatch : c.matchesDriver name = true ↔
      cut maxDriverName name.toList <+: c.text.toList ∨
        c.AsksUsb ∧ "_usb".toList <:+ cut maxDriverName name.toList := by
    rw [matchesDriver, Bool.or_eq_true, Bool.and_eq_true, isUsbRequest_iff,
      List.isPrefixOf_iff_prefix, List.isSuffixOf_iff_suffix]
  rw [hmatch]
  refine ⟨fun h => ⟨_, shortName_cut name, h⟩, ?_⟩
  rintro ⟨short, hshort, h⟩
  rwa [hshort.eq_cut] at h

instance (c : ConnString) : Decidable c.AsksUsb := decidable_of_iff _ isUsbRequest_iff

instance (c : ConnString) (name : String) : Decidable (c.Means name) :=
  decidable_of_iff _ matchesDriver_iff

end NearField.ConnString
