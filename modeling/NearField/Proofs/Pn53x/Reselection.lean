import NearField.Device.Selection
import NearField.Pn53x.Reader
import NearField.Proofs.Device.Call
import NearField.Proofs.Pn53x.Layout
import NearField.Proofs.Pn53x.Polling

/-!
# Selecting by an identifier that was read

A tag of type A is selected by its identifier with the cascade tags that it sent, and its
description is read to the identifier without them.  Each undoes the other, whatever the bytes of
the identifier are (`stripCascadeTags_cascade`, `Tagged.cascade_eq`).  So a selection by the
identifier of a tag that was described sends the bytes of the description.
-/

namespace NearField

open Pn53x Iso14443

/-! ## Cascade tags -/

namespace Iso14443

/-- The lengths of an identifier of single, double and triple size. -/
def idLengths : List Nat := [4, 7, 10]

/-- An identifier of double or triple size is sent with its tags. -/
theorem tagged_cascade {uid : Bytes} (h : uid.length = 7 ∨ uid.length = 10) :
    Tagged (cascade uid) uid := by
  rcases h with h | h
  · have hcascade : cascade uid = cascadeTag :: uid := by simp [cascade, h]
    rw [hcascade]
    exact .double h
  · have hcascade : cascade uid = cascadeTag :: uid.take 3 ++ cascadeTag :: uid.drop 3 := by
      simp [cascade, h]
    have htagged : Tagged (cascadeTag :: uid.take 3 ++ cascadeTag :: uid.drop 3)
        (uid.take 3 ++ uid.drop 3) := .triple (by simp [h]) (by simp [h])
    rw [hcascade]
    rwa [List.take_append_drop] at htagged

theorem cascade_of_tagged {field uid : Bytes} (h : Tagged field uid) : cascade uid = field := by
  cases h with
  | double h => simp [cascade, h]
  | @triple front back hfront hback =>
      have htake : (front ++ back).take 3 = front := hfront ▸ List.take_left
      have hdrop : (front ++ back).drop 3 = back := hfront ▸ List.drop_left
      simp [cascade, hfront, hback, htake, hdrop]

/-- The tags that an identifier is sent with are told from its own bytes. -/
theorem identifierIn_cascade {uid : Bytes} (h : uid.length ∈ idLengths) :
    IdentifierIn (cascade uid) uid := by
  simp only [idLengths, List.mem_cons, List.not_mem_nil, or_false] at h
  rcases h with h | h
  · have hsingle : cascade uid = uid := by simp [cascade, h]
    have htags : ¬ TagsInPlace uid := by simp [TagsInPlace, h]
    rw [hsingle]
    exact .untagged htags
  · exact .tagged (tagged_cascade h)

/-- The field of such an identifier is short. -/
theorem length_cascade_lt {uid : Bytes} (h : uid.length ∈ idLengths) :
    (cascade uid).length < 256 := by
  simp only [idLengths, List.mem_cons, List.not_mem_nil, or_false] at h
  rcases h with h | h
  · simp [cascade, h]
  · rcases (tagged_cascade h).tagsInPlace with ⟨hlen, -⟩ | ⟨hlen, -⟩ <;> omega

end Iso14443

/-! ## Reading an identifier -/

namespace Pn53x

variable {σ : Type} {field uid behind : Bytes} {atqa : Vector UInt8 2} {sak : UInt8}

/-- The description of a tag of type A with this field for its identifier, and what stands behind
the field. -/
def description (atqa : Vector UInt8 2) (sak : UInt8) (field behind : Bytes) : Bytes :=
  atqa.toList ++ sak :: UInt8.ofNat field.length :: (field ++ behind)

/-- A description is cut in one way only. -/
theorem describes_description_iff {info : Iso14443aInfo} (hlen : field.length < 256) :
    Describes (description atqa sak field behind) (.iso14443a info) ↔
      ∃ uid ats, IdentifierIn field uid ∧ AtsIn sak behind ats ∧ info = ⟨atqa, sak, uid, ats⟩ := by
  have hlength : field.length = (UInt8.ofNat field.length).toNat := by
    rw [UInt8.toNat_ofNat', Nat.mod_eq_of_lt hlen]
  constructor
  · generalize hdata : description atqa sak field behind = data
    rintro (⟨hlength', huid, hats⟩ | _)
    -- the lengths in front of them cut both at the same places
    obtain ⟨hatqa, hcut⟩ := List.append_inj hdata (by simp)
    obtain rfl := Vector.toList_inj.mp hatqa
    obtain ⟨rfl, hcut'⟩ := List.cons_eq_cons.mp hcut
    obtain ⟨rfl, hcut''⟩ := List.cons_eq_cons.mp hcut'
    obtain ⟨rfl, rfl⟩ := List.append_inj hcut'' (hlength.trans hlength'.symm)
    exact ⟨_, _, huid, hats, rfl⟩
  · rintro ⟨uid, ats, huid, hats, rfl⟩
    exact .iso14443a hlength huid hats

theorem IdentifierIn.unique {uid' : Bytes} (h : IdentifierIn field uid)
    (h' : IdentifierIn field uid') : uid = uid' :=
  (stripCascadeTags_eq_iff.mpr h).symm.trans (stripCascadeTags_eq_iff.mpr h')

/-- Every description with this field is decoded to a tag with this identifier, unless the answer
to select behind it breaks off. -/
def DecodesTo (field uid : Bytes) : Prop :=
  ∀ {σ : Type} (atqa : Vector UInt8 2) (sak : UInt8) (behind : Bytes) (rate : BaudRate) (s : σ) t,
    (decodeTarget (description atqa sak field behind) ⟨.iso14443a, rate⟩ s).result = .ok t ↔
      ∃ ats, AtsIn sak behind ats ∧ t = ⟨rate, .iso14443a ⟨atqa, sak, uid, ats⟩⟩

theorem decodesTo_of_identifierIn (hlen : field.length < 256) (huid : IdentifierIn field uid) :
    DecodesTo field uid := by
  intro σ atqa sak behind rate s t
  rw [decodeTarget_eq_ok_iff]
  constructor
  · rintro ⟨hm, h⟩
    obtain ⟨rate, info⟩ := t
    cases info with
    | iso14443a info =>
        obtain ⟨uid', ats, huid', hats, rfl⟩ := (describes_description_iff hlen).mp h
        obtain rfl := huid.unique huid'
        obtain ⟨-, rfl⟩ := Modulation.mk.inj hm
        exact ⟨ats, hats, rfl⟩
    | _ => cases (Modulation.mk.inj hm).1
  · rintro ⟨ats, hats, rfl⟩
    exact ⟨rfl, (describes_description_iff hlen).mpr ⟨uid, ats, huid, hats, rfl⟩⟩

end Pn53x

/-! ## Selecting by it -/

namespace Device

variable {τ : Type} [ChipLink τ]

/-- A chip of any kind lists tags of type A at their only speed, and nothing is sent for it. -/
theorem yields_validate_iso14443a (d : Device (Chip τ)) :
    (validate .initiator ⟨.iso14443a, .kbps106⟩).Yields d () { d with lastError? := none } := by
  have hfamily : Family.iso14443a ∈ Chip.families .initiator d.backend.kind := by
    cases d.backend.kind <;> decide
  exact yields_validate.mpr ⟨_, _, yields_dispatch.mpr ⟨d.backend, ⟨rfl, rfl⟩, rfl⟩, hfamily,
    [.kbps106], yields_dispatch.mpr ⟨d.backend, ⟨rfl, rfl⟩, rfl⟩, List.mem_singleton_self _⟩

/-- A selection of a tag of type A by an identifier sends this field. -/
def SelectsBy (field uid : Bytes) : Prop :=
  ∀ {τ : Type} [ChipLink τ] (d : Device (Chip (Tapped τ))),
    (selectPassive ⟨.iso14443a, .kbps106⟩ uid d).state.backend.sent =
      d.backend.sent ++ [Command.listPassiveTarget 1 0x00 field]

theorem selectsBy_cascade {uid : Bytes} (h : uid ≠ []) : SelectsBy (cascade uid) uid := by
  intro τ _ d
  have hwire : Family.iso14443a.wireData uid = cascade uid := by simp [Family.wireData, h]
  -- the tables of a chip are its own, so nothing crosses the link before the selection
  rw [selectPassive, ((yields_validate_iso14443a d).bind _).2, (dispatch_run _ _).2, hwire]
  refine (congrArg Tapped.sent (Chip.link_selectPassive rfl d.backend)).trans ?_
  rw [Chip.sent_carry]
  rfl

end Device

/-- **The tags of an identifier are put in and left out in turn.**  Every identifier of single,
double or triple size is read from any description that has it with its tags; and a field with
tags in place is read to an identifier that it is sent with when a tag is selected by it. -/
theorem decodesTo_cascade_and_selectsBy :
    (∀ uid : Bytes, uid.length ∈ Iso14443.idLengths → DecodesTo (cascade uid) uid) ∧
      ∀ field : Bytes, TagsInPlace field →
        ∃ uid, DecodesTo field uid ∧ cascade uid = field ∧ Device.SelectsBy field uid := by
  refine ⟨fun uid h => decodesTo_of_identifierIn (length_cascade_lt h) (identifierIn_cascade h),
    fun field h => ?_⟩
  obtain ⟨uid, htagged⟩ := h.exists_tagged
  have hlen : field.length < 256 := by rcases h with ⟨hlen, -⟩ | ⟨hlen, -⟩ <;> omega
  have hcascade := cascade_of_tagged htagged
  have hnonempty : uid ≠ [] := by
    rintro rfl
    rw [← hcascade] at h
    simp [TagsInPlace, cascade] at h
  exact ⟨uid, decodesTo_of_identifierIn hlen (.tagged htagged), hcascade,
    hcascade ▸ Device.selectsBy_cascade hnonempty⟩

/-- An identifier that has the byte of a cascade tag at both places is no exception. -/
theorem decodesTo_tags_inside :
    let uid : Bytes := [0x88, 1, 2, 0x88, 4, 5, 6, 7, 8, 9]
    let field : Bytes := [0x88, 0x88, 1, 2, 0x88, 0x88, 4, 5, 6, 7, 8, 9]
    (uid.length ∈ Iso14443.idLengths ∧ DecodesTo field uid) ∧ TagsInPlace field ∧
      ∃ uid', DecodesTo field uid' ∧ cascade uid' = field ∧ Device.SelectsBy field uid' := by
  intro uid field
  have hlength : uid.length ∈ Iso14443.idLengths := by decide
  have htags : TagsInPlace field := .inr ⟨rfl, rfl, rfl⟩
  exact ⟨⟨hlength, decodesTo_cascade_and_selectsBy.1 uid hlength⟩, htags,
    decodesTo_cascade_and_selectsBy.2 field htags⟩

end NearField
