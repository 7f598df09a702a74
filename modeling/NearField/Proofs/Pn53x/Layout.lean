import NearField.Pn53x.Description
import NearField.Proofs.Checked

/-!
# Layouts of target descriptions

What a description says of a tag is given here as a relation between bytes and tags
(`Describes`): the fields of a family stand one behind the other, each at its place, and some are
announced by a length in front of them.  Reading with a cursor gives exactly what is described
(`reads_readInfo`).  A description describes something if no announced field breaks off, which
is a matter of lengths (`exists_describes_iff`); reading any other fails as an error of the wire
(`leads_readInfo`).
-/

namespace NearField.Pn53x

open Iso14443 (cascadeTag)

variable {data rest : Bytes} {size : Nat}

/-! ## Pieces -/

/-- Enough bytes begin with a vector. -/
theorem exists_vector_append {k : Nat} (h : k ≤ data.length) :
    ∃ (v : Vector UInt8 k) (rest : Bytes), data = v.toList ++ rest :=
  ⟨⟨(data.take k).toArray, by simp [h]⟩, data.drop k, by simp⟩

namespace Cursor

variable {α β : Type} {k : Nat} {y : β}

/-- Of the bytes that are left of a description, this is read. -/
def Reads (size : Nat) (a : Op Cursor α) (data : Bytes) (x : α) : Prop :=
  (a ⟨size, data⟩).result = .ok x

theorem reads_pure {x : β} : Reads size (pure x) data y ↔ x = y := by
  simp [Reads]

theorem reads_ite {p : Prop} [Decidable p] {a b : Op Cursor β} :
    Reads size (if p then a else b) data y ↔
      p ∧ Reads size a data y ∨ ¬ p ∧ Reads size b data y := by
  by_cases h : p <;> simp [h]

theorem reads_map {a : Op Cursor α} {f : α → β} :
    Reads size (f <$> a) data y ↔ ∃ x, Reads size a data x ∧ f x = y := by
  constructor
  · intro h
    obtain ⟨x, hx, hy⟩ := Act.yields_map.mp ⟨h, rfl⟩
    exact ⟨x, hx.1, hy⟩
  · rintro ⟨x, h, rfl⟩
    exact (Act.yields_map.mpr ⟨x, ⟨h, rfl⟩, rfl⟩).1

/-- Reading goes on behind a piece that is taken. -/
theorem reads_take_bind {f : Bytes → Op Cursor β} : Reads size (take k >>= f) data y ↔
    ∃ bs rest, (bs.length = k ∧ bs ++ rest = data) ∧ Reads size (f bs) rest y := by
  by_cases hk : k ≤ data.length
  · have htake : (take k).Yields ⟨size, data⟩ (data.take k) ⟨size, data.drop k⟩ := by
      rw [take, Act.Yields, (Act.get_bind _ _).1, (Act.get_bind _ _).2, if_pos hk]
      exact ⟨rfl, rfl⟩
    rw [Reads, (htake.bind f).1]
    constructor
    · exact fun h => ⟨_, _, ⟨List.length_take_of_le hk, List.take_append_drop k data⟩, h⟩
    · rintro ⟨bs, rest, ⟨rfl, rfl⟩, h⟩
      rw [List.take_left, List.drop_left]
      exact h
  · have htake : (take k).Fails ⟨size, data⟩ .io ⟨size, data⟩ := by
      rw [take, Act.Fails, (Act.get_bind _ _).1, (Act.get_bind _ _).2, if_neg hk]
      exact ⟨rfl, rfl⟩
    rw [Reads, (htake.bind f).1]
    constructor
    · intro h
      cases h
    · rintro ⟨bs, rest, ⟨rfl, rfl⟩, -⟩
      simp at hk

/-- A piece is the front of what is left. -/
theorem reads_take {bs : Bytes} :
    Reads size (take k) data bs ↔ bs.length = k ∧ ∃ rest, bs ++ rest = data := by
  rw [← bind_pure (take k), reads_take_bind]
  simp only [reads_pure]
  constructor
  · rintro ⟨bs, rest, ⟨hlen, hcut⟩, rfl⟩
    exact ⟨hlen, rest, hcut⟩
  · rintro ⟨hlen, rest, hcut⟩
    exact ⟨bs, rest, ⟨hlen, hcut⟩, rfl⟩

/-- Reading goes on behind a vector. -/
theorem reads_vector_bind {f : Vector UInt8 k → Op Cursor β} :
    Reads size (vector k >>= f) data y ↔
      ∃ v rest, v.toList ++ rest = data ∧ Reads size (f v) rest y := by
  rw [vector, bind_assoc, reads_take_bind]
  constructor
  · rintro ⟨bs, rest, ⟨hlen, rfl⟩, h⟩
    rw [vector?_eq_some.mpr ⟨hlen, rfl⟩, pure_bind] at h
    exact ⟨_, rest, rfl, h⟩
  · rintro ⟨v, rest, rfl, h⟩
    refine ⟨v.toList, rest, ⟨v.length_toList, rfl⟩, ?_⟩
    rw [vector?_eq_some.mpr ⟨v.length_toList, rfl⟩, pure_bind]
    exact h

/-- Reading goes on behind a byte. -/
theorem reads_byte_bind {f : UInt8 → Op Cursor β} :
    Reads size (byte >>= f) data y ↔ ∃ b rest, b :: rest = data ∧ Reads size (f b) rest y := by
  rw [byte, bind_assoc, reads_vector_bind]
  constructor
  · rintro ⟨⟨⟨bs⟩, hbs⟩, rest, rfl, h⟩
    obtain ⟨b, rfl⟩ := List.length_eq_one_iff.mp hbs
    exact ⟨b, rest, rfl, h⟩
  · rintro ⟨b, rest, rfl, h⟩
    exact ⟨#v[b], rest, rfl, h⟩

/-- A piece that is not there is an error of the wire. -/
theorem leads_take (k : Nat) : Act.Leads (InvImage Eq Cursor.size) (· = .io) (take k) := by
  intro c
  rw [take, (Act.get_bind _ _).1, (Act.get_bind _ _).2]
  by_cases hk : k ≤ c.rest.length
  · rw [if_pos hk]
    exact ⟨rfl, nofun⟩
  · rw [if_neg hk]
    exact ⟨rfl, fun e he => (Except.error.inj he).symm⟩

/-- So is a vector that is not there. -/
theorem leads_vector (k : Nat) : Act.Leads (InvImage Eq Cursor.size) (· = .io) (vector k) := by
  refine (leads_take k).bind fun bs => ?_
  cases vector? k bs with
  | none => exact Act.leads_throw rfl
  | some v => exact Act.leads_pure v

theorem leads_byte : Act.Leads (InvImage Eq Cursor.size) (· = .io) byte :=
  (leads_vector 1).bind fun _ => Act.leads_pure _

end Cursor

/-! ## Identifiers -/

/-- An identifier of double or triple size with its cascade tags, as the tag sends it, and
without them. -/
inductive Tagged : Bytes → Bytes → Prop where
  | double {uid : Bytes} (h : uid.length = 7) : Tagged (cascadeTag :: uid) uid
  | triple {front back : Bytes} (hfront : front.length = 3) (hback : back.length = 7) :
      Tagged (cascadeTag :: front ++ cascadeTag :: back) (front ++ back)

/-- Eight bytes behind a cascade tag, or twelve with one at both places. -/
def TagsInPlace (field : Bytes) : Prop :=
  field.length = 8 ∧ field.head? = some cascadeTag ∨
    field.length = 12 ∧ field.head? = some cascadeTag ∧ field[4]? = some cascadeTag

/-- The field of an identifier holds it with its cascade tags, or is the identifier itself. -/
inductive IdentifierIn (field : Bytes) : Bytes → Prop where
  | tagged {uid : Bytes} (h : Tagged field uid) : IdentifierIn field uid
  | untagged (h : ¬ TagsInPlace field) : IdentifierIn field field

/-- An identifier with its cascade tags has them in place. -/
theorem Tagged.tagsInPlace {field uid : Bytes} (h : Tagged field uid) : TagsInPlace field := by
  cases h with
  | double h => exact .inl ⟨by simp [h], rfl⟩
  | triple hfront hback => exact .inr ⟨by simp [hfront, hback], rfl, by simp [hfront]⟩

/-- Whatever the bytes between them are, cascade tags in place can be left out. -/
theorem TagsInPlace.exists_tagged {field : Bytes} (h : TagsInPlace field) :
    ∃ uid, Tagged field uid := by
  rcases h with ⟨hlen, htag⟩ | ⟨hlen, htag, htag'⟩
  · obtain ⟨uid, rfl⟩ := List.head?_eq_some_iff.mp htag
    exact ⟨uid, .double (by simpa using hlen)⟩
  · -- the second tag stands three bytes behind the first
    obtain ⟨behind, rfl⟩ := List.head?_eq_some_iff.mp htag
    obtain ⟨back, hback⟩ : ∃ back, behind.drop 3 = cascadeTag :: back :=
      List.head?_eq_some_iff.mp (List.head?_drop.trans htag')
    have hfront : (behind.take 3).length = 3 := List.length_take_of_le (by simp at hlen; omega)
    have hcut : behind = behind.take 3 ++ cascadeTag :: back := by
      rw [← hback, List.take_append_drop]
    rw [hcut] at hlen ⊢
    exact ⟨_, .triple hfront (by simp [hfront] at hlen; omega)⟩

/-- Tags in place are removed. -/
theorem stripCascadeTags_of_tagged {field uid : Bytes} (h : Tagged field uid) :
    stripCascadeTags field = uid := by
  cases h with
  | double h => simp [stripCascadeTags, h]
  | @triple front back hfront hback =>
      have hdrop : (front ++ cascadeTag :: back).drop 4 = back := by
        rw [List.drop_append, hfront]
        simp [hfront]
      simp [stripCascadeTags, hfront, hback, hdrop]

/-- A field without tags in place stays as it is. -/
theorem stripCascadeTags_of_not_tagsInPlace {field : Bytes} (h : ¬ TagsInPlace field) :
    stripCascadeTags field = field := by
  unfold stripCascadeTags
  dsimp only
  rw [if_neg, if_neg]
  · rintro ⟨hlen, htag, htag'⟩
    exact h (.inr ⟨hlen, List.head?_eq_getElem?.trans (by simpa using htag), by simpa using htag'⟩)
  · rintro ⟨hlen, htag⟩
    exact h (.inl ⟨hlen, List.head?_eq_getElem?.trans (by simpa using htag)⟩)

/-- What is left of a field without its tags is the identifier in it. -/
theorem stripCascadeTags_eq_iff {field uid : Bytes} :
    stripCascadeTags field = uid ↔ IdentifierIn field uid := by
  constructor
  · rintro rfl
    by_cases h : TagsInPlace field
    · obtain ⟨uid, h⟩ := h.exists_tagged
      rw [stripCascadeTags_of_tagged h]
      exact .tagged h
    · rw [stripCascadeTags_of_not_tagsInPlace h]
      exact .untagged h
  · rintro (h | h)
    · exact stripCascadeTags_of_tagged h
    · exact stripCascadeTags_of_not_tagsInPlace h

/-! ## Fields with a length in front -/

/-- What follows an identifier holds this answer to select, whose length counts itself.  Only a
tag with that bit in its acknowledge has one, and it may be left out. -/
inductive AtsIn (sak : UInt8) : Bytes → Bytes → Prop where
  | unannounced {rest : Bytes} (h : sak &&& 0x20 = 0) : AtsIn sak rest []
  | omitted : AtsIn sak [] []
  | given {tl : UInt8} {ats rest : Bytes} (h : sak &&& 0x20 ≠ 0)
      (hlength : ats.length = tl.toNat - 1) : AtsIn sak (tl :: (ats ++ rest)) ats

/-- What follows the pad of a FeliCa tag holds this system code, if the length announces one. -/
inductive SystemCodeIn (length : UInt8) : Bytes → Option (Vector UInt8 2) → Prop where
  | unannounced {rest : Bytes} (h : length.toNat ≤ 18) : SystemCodeIn length rest none
  | given {code : Vector UInt8 2} {rest : Bytes} (h : 18 < length.toNat) :
      SystemCodeIn length (code.toList ++ rest) (some code)

/-- What follows the answer of a tag of type B holds this card identifier, in the low half of the
first of the bytes that a length announces. -/
inductive CardIdentifierIn : Bytes → UInt8 → Prop where
  | omitted : CardIdentifierIn [] 0
  | empty {rest : Bytes} : CardIdentifierIn (0 :: rest) 0
  | given {length first : UInt8} {others rest : Bytes}
      (h : length.toNat = others.length + 1) :
      CardIdentifierIn (length :: first :: (others ++ rest)) (first &&& 0x0F)

/-- An answer to select is read where it stands. -/
theorem reads_readAts {sak : UInt8} {ats : Bytes} :
    Cursor.Reads size (readAts sak) data ats ↔ AtsIn sak data ats := by
  have hrun : Cursor.Reads size (readAts sak) data ats ↔
      Cursor.Reads size (if sak &&& 0x20 ≠ 0 ∧ data ≠ [] then Cursor.byte >>= fun tl =>
        if 1 < tl.toNat then Cursor.take (tl.toNat - 1) else pure [] else pure []) data ats :=
    Iff.rfl
  simp only [hrun, Cursor.reads_ite, Cursor.reads_byte_bind, Cursor.reads_take, Cursor.reads_pure]
  -- an answer is taken behind its length, is of no bytes by its length, or has no length at all
  constructor
  · rintro (⟨⟨hsak, -⟩, tl, _, rfl, ⟨-, hlength, rest, rfl⟩ | ⟨htl, rfl⟩⟩ | ⟨h, rfl⟩)
    · exact .given hsak hlength
    · have hempty : ([] : Bytes).length = tl.toNat - 1 := by simp; omega
      exact .given hsak hempty
    · by_cases hsak : sak &&& 0x20 = 0
      · exact .unannounced hsak
      · obtain rfl : data = [] := by simpa [hsak] using h
        exact .omitted
  · intro h
    cases h with
    | unannounced hsak => exact .inr ⟨fun h => h.1 hsak, rfl⟩
    | omitted => exact .inr ⟨fun h => h.2 rfl, rfl⟩
    | @given tl _ rest hsak hlength =>
        refine .inl ⟨⟨hsak, List.cons_ne_nil _ _⟩, tl, _, rfl, ?_⟩
        rcases Nat.lt_or_ge 1 tl.toNat with htl | htl
        · exact .inl ⟨htl, hlength, rest, rfl⟩
        · have hempty : ats = [] := List.eq_nil_of_length_eq_zero (by omega)
          exact .inr ⟨Nat.not_lt.mpr htl, hempty.symm⟩

/-- A card identifier is read where it stands. -/
theorem reads_readCardIdentifier {card : UInt8} :
    Cursor.Reads size readCardIdentifier data card ↔ CardIdentifierIn data card := by
  cases data with
  | nil =>
      constructor
      · intro h
        obtain rfl : 0 = card := Except.ok.inj h
        exact .omitted
      · rintro ⟨⟩
        rfl
  | cons length rest =>
      -- the length is there, so reading goes on behind it
      have hrun : Cursor.Reads size readCardIdentifier (length :: rest) card ↔
          Cursor.Reads size (if length = 0 then pure 0 else Cursor.take length.toNat >>= fun bs =>
            pure (bs.headD 0 &&& 0x0F)) rest card := Iff.rfl
      simp only [hrun, Cursor.reads_ite, Cursor.reads_take_bind, Cursor.reads_pure]
      constructor
      · rintro (⟨rfl, rfl⟩ | ⟨hzero, attrib, _, ⟨hlength, rfl⟩, rfl⟩)
        · exact .empty
        · cases attrib with
          | nil => exact absurd (UInt8.toNat_inj.mp hlength.symm) hzero
          | cons first others => exact .given hlength.symm
      · intro h
        cases h with
        | empty => exact .inl ⟨rfl, rfl⟩
        | @given _ first others rest h =>
            refine .inr ⟨?_, first :: others, rest, ⟨h.symm, rfl⟩, rfl⟩
            rintro rfl
            cases h

/-! ## Whole descriptions -/

/-- A description holds this of a tag: every field is at its place, and what follows the last one
is of no account. -/
inductive Describes : Bytes → TargetInfo → Prop where
  | iso14443a {atqa : Vector UInt8 2} {sak length : UInt8} {field uid ats rest : Bytes}
      (hlength : field.length = length.toNat) (huid : IdentifierIn field uid)
      (hats : AtsIn sak rest ats) :
      Describes (atqa.toList ++ sak :: length :: (field ++ rest))
        (.iso14443a ⟨atqa, sak, uid, ats⟩)
  | felica {length resCode : UInt8} {id pad : Vector UInt8 8} {code? : Option (Vector UInt8 2)}
      {rest : Bytes} (hcode : SystemCodeIn length rest code?) :
      Describes (length :: resCode :: (id.toList ++ (pad.toList ++ rest)))
        (.felica ⟨resCode, id, pad, code?⟩)
  | iso14443b {first card : UInt8} {pupi application : Vector UInt8 4}
      {protocol : Vector UInt8 3} {rest : Bytes} (hcard : CardIdentifierIn rest card) :
      Describes (first :: (pupi.toList ++ application.toList ++ protocol.toList) ++ rest)
        (.iso14443b ⟨pupi, application, protocol, card⟩)
  | jewel {sensRes : Vector UInt8 2} {id : Vector UInt8 4} {rest : Bytes} :
      Describes (sensRes.toList ++ (id.toList ++ rest)) (.jewel ⟨sensRes, id⟩)

/-- A tag of type A is read off its layout. -/
theorem reads_readIso14443a {info : Iso14443aInfo} :
    Cursor.Reads size readIso14443a data info ↔ Describes data (.iso14443a info) := by
  simp only [readIso14443a, Cursor.reads_vector_bind, Cursor.reads_byte_bind,
    Cursor.reads_take_bind, bind_pure_comp, Cursor.reads_map, reads_readAts]
  constructor
  · rintro ⟨atqa, _, rfl, sak, _, rfl, length, _, rfl, field, rest, ⟨hlength, rfl⟩, ats, hats, rfl⟩
    exact .iso14443a hlength (stripCascadeTags_eq_iff.mp rfl) hats
  · rintro (⟨hlength, huid, hats⟩ | _)
    obtain rfl := stripCascadeTags_eq_iff.mpr huid
    exact ⟨_, _, rfl, _, _, rfl, _, _, rfl, _, _, ⟨hlength, rfl⟩, _, hats, rfl⟩

/-- A FeliCa tag is read off its layout. -/
theorem reads_readFelica {info : FelicaInfo} :
    Cursor.Reads size readFelica data info ↔ Describes data (.felica info) := by
  simp only [readFelica, Cursor.reads_byte_bind, Cursor.reads_vector_bind, Cursor.reads_ite,
    bind_map_left, pure_bind, Cursor.reads_pure]
  constructor
  · rintro ⟨length, _, rfl, resCode, _, rfl, id, _, rfl, pad, rest, rfl, h⟩
    rcases h with ⟨h, code, _, rfl, rfl⟩ | ⟨h, rfl⟩
    · exact .felica (.given h)
    · exact .felica (.unannounced (Nat.not_lt.mp h))
  · rintro (_ | hcode)
    refine ⟨_, _, rfl, _, _, rfl, _, _, rfl, _, _, rfl, ?_⟩
    cases hcode with
    | unannounced h => exact .inr ⟨Nat.not_lt.mpr h, rfl⟩
    | given h => exact .inl ⟨h, _, _, rfl, rfl⟩

/-- The answer of a tag of type B is cut at its fields. -/
theorem toList_eq_fields (atqb : Vector UInt8 12) : atqb.toList = atqb[0] ::
    ((atqb.extract 1 5).toList ++ (atqb.extract 5 9).toList ++ (atqb.extract 9 12).toList) := by
  match atqb with
  | ⟨⟨[_, _, _, _, _, _, _, _, _, _, _, _]⟩, _⟩ => rfl

/-- Every choice of fields makes up an answer. -/
theorem exists_answer (first : UInt8) (pupi application : Vector UInt8 4)
    (protocol : Vector UInt8 3) : ∃ atqb : Vector UInt8 12,
      atqb.toList = first :: (pupi.toList ++ application.toList ++ protocol.toList) ∧
        atqb.extract 1 5 = pupi ∧ atqb.extract 5 9 = application ∧
        atqb.extract 9 12 = protocol := by
  let atqb : Vector UInt8 12 :=
    ⟨(first :: (pupi.toList ++ application.toList ++ protocol.toList)).toArray, by simp⟩
  -- the fields of this answer are as long as the given ones
  have hfields : first :: (pupi.toList ++ application.toList ++ protocol.toList) =
      atqb[0] :: ((atqb.extract 1 5).toList ++ (atqb.extract 5 9).toList
        ++ (atqb.extract 9 12).toList) := toList_eq_fields atqb
  obtain ⟨-, hfields⟩ := List.cons_eq_cons.mp hfields
  obtain ⟨hfields, hprotocol⟩ := List.append_inj hfields (by simp)
  obtain ⟨hpupi, happlication⟩ := List.append_inj hfields (by simp)
  exact ⟨atqb, rfl, (Vector.toList_inj.mp hpupi).symm, (Vector.toList_inj.mp happlication).symm,
    (Vector.toList_inj.mp hprotocol).symm⟩

/-- A tag of type B is read off its layout, whose parts are cut out of one answer. -/
theorem reads_readIso14443b {info : Iso14443bInfo} :
    Cursor.Reads size readIso14443b data info ↔ Describes data (.iso14443b info) := by
  simp only [readIso14443b, Cursor.reads_vector_bind, bind_pure_comp, Cursor.reads_map,
    reads_readCardIdentifier]
  constructor
  · rintro ⟨atqb, rest, rfl, card, hcard, rfl⟩
    rw [toList_eq_fields]
    exact .iso14443b hcard
  · intro h
    cases h with
    | @iso14443b first card pupi application protocol rest hcard =>
        obtain ⟨atqb, hatqb, rfl, rfl, rfl⟩ := exists_answer first pupi application protocol
        exact ⟨atqb, rest, congrArg (· ++ rest) hatqb, card, hcard, rfl⟩

/-- A Jewel tag is read off its layout. -/
theorem reads_readJewel {info : JewelInfo} :
    Cursor.Reads size readJewel data info ↔ Describes data (.jewel info) := by
  simp only [readJewel, Cursor.reads_vector_bind, Cursor.reads_pure]
  constructor
  · rintro ⟨sensRes, _, rfl, id, rest, rfl, rfl⟩
    exact .jewel
  · rintro ⟨⟩
    exact ⟨_, _, rfl, _, _, rfl, rfl⟩

/-- Reading gives exactly what is described. -/
theorem reads_readInfo {f : Family} {info : TargetInfo} :
    Cursor.Reads size (readInfo f) data info ↔ info.family = f ∧ Describes data info := by
  have hmap {α : Type} {a : Op Cursor α} {mk : α → TargetInfo}
      (ha : ∀ x, Cursor.Reads size a data x ↔ Describes data (mk x)) :
      Cursor.Reads size (mk <$> a) data info ↔ (∃ x, mk x = info) ∧ Describes data info := by
    rw [Cursor.reads_map]
    constructor
    · rintro ⟨x, h, rfl⟩
      exact ⟨⟨x, rfl⟩, (ha x).mp h⟩
    · rintro ⟨⟨x, rfl⟩, h⟩
      exact ⟨x, (ha x).mpr h, rfl⟩
  cases f with
  | iso14443a =>
      refine (hmap fun _ => reads_readIso14443a).trans (and_congr_left' ?_)
      cases info <;> simp [TargetInfo.family]
  | felica =>
      refine (hmap fun _ => reads_readFelica).trans (and_congr_left' ?_)
      cases info <;> simp [TargetInfo.family]
  | iso14443b =>
      refine (hmap fun _ => reads_readIso14443b).trans (and_congr_left' ?_)
      cases info <;> simp [TargetInfo.family]
  | jewel =>
      refine (hmap fun _ => reads_readJewel).trans (and_congr_left' ?_)
      cases info <;> simp [TargetInfo.family]
  | _ =>
      -- no description is of another family, and reading one fails
      refine iff_of_false nofun ?_
      rintro ⟨hfamily, h⟩
      cases h <;> cases hfamily

/-! ## Which descriptions are complete -/

/-- The families that the chip describes. -/
def described : List Family := [.iso14443a, .felica, .iso14443b, .jewel]

/-- No announced field of a description breaks off. -/
def Complete : Family → Bytes → Prop
  | .iso14443a, data => ∃ (atqa : Vector UInt8 2) (sak length : UInt8) (field rest : Bytes),
      data = atqa.toList ++ sak :: length :: (field ++ rest) ∧ field.length = length.toNat ∧
        (sak &&& 0x20 = 0 ∨ rest = [] ∨
          ∃ tl behind, rest = tl :: behind ∧ (tl.toNat ≤ 1 ∨ tl.toNat - 1 ≤ behind.length))
  | .felica, data => 18 ≤ data.length ∧ ((data.getD 0 0).toNat ≤ 18 ∨ 20 ≤ data.length)
  | .iso14443b, data => 12 ≤ data.length ∧
      (data.length = 12 ∨ data.getD 12 0 = 0 ∨ 13 + (data.getD 12 0).toNat ≤ data.length)
  | .jewel, data => 6 ≤ data.length
  | _, _ => False

/-- There is an answer to select unless the bytes break off that its length announces. -/
theorem exists_atsIn_iff {sak : UInt8} : (∃ ats, AtsIn sak rest ats) ↔
    sak &&& 0x20 = 0 ∨ rest = [] ∨
      ∃ tl behind, rest = tl :: behind ∧ (tl.toNat ≤ 1 ∨ tl.toNat - 1 ≤ behind.length) := by
  constructor
  · rintro ⟨ats, h⟩
    cases h with
    | unannounced hsak => exact .inl hsak
    | omitted => exact .inr (.inl rfl)
    | given hsak hlength => exact .inr (.inr ⟨_, _, rfl, .inr (by simp [hlength])⟩)
  · rintro (hsak | rfl | ⟨tl, behind, rfl, htl⟩)
    · exact ⟨[], .unannounced hsak⟩
    · exact ⟨[], .omitted⟩
    · by_cases hsak : sak &&& 0x20 = 0
      · exact ⟨[], .unannounced hsak⟩
      · rw [← List.take_append_drop (tl.toNat - 1) behind]
        exact ⟨_, .given hsak (List.length_take_of_le (by omega))⟩

/-- There is a system code, or none announced, unless its two bytes break off. -/
theorem exists_systemCodeIn_iff {length : UInt8} :
    (∃ code?, SystemCodeIn length rest code?) ↔ length.toNat ≤ 18 ∨ 2 ≤ rest.length := by
  constructor
  · rintro ⟨code?, h⟩
    cases h with
    | unannounced h => exact .inl h
    | given h => exact .inr (by simp)
  · intro h
    by_cases hlength : length.toNat ≤ 18
    · exact ⟨none, .unannounced hlength⟩
    · obtain ⟨code, rest, rfl⟩ := exists_vector_append (h.resolve_left hlength)
      exact ⟨some code, .given (Nat.lt_of_not_le hlength)⟩

/-- There is a card identifier unless the bytes break off that its length announces. -/
theorem exists_cardIdentifierIn_iff : (∃ card, CardIdentifierIn rest card) ↔
    rest = [] ∨ rest.getD 0 0 = 0 ∨ 1 + (rest.getD 0 0).toNat ≤ rest.length := by
  constructor
  · rintro ⟨card, h⟩
    cases h with
    | omitted => exact .inl rfl
    | empty => exact .inr (.inl rfl)
    | given h => exact .inr (.inr (by simp [h]; omega))
  · cases rest with
    | nil => exact fun _ => ⟨0, .omitted⟩
    | cons length rest =>
        intro h
        by_cases hzero : length = 0
        · subst hzero
          exact ⟨0, .empty⟩
        · have hpos : length.toNat ≠ 0 := fun h => hzero (UInt8.toNat_inj.mp h)
          have hroom : length.toNat ≤ rest.length := by
            simp [hzero] at h
            omega
          obtain _ | ⟨first, rest⟩ := rest
          · exact absurd (Nat.le_zero.mp hroom) hpos
          · rw [← List.take_append_drop (length.toNat - 1) rest]
            refine ⟨_, .given ?_⟩
            rw [List.length_take_of_le (by simp at hroom; omega)]
            omega

/-- What follows the answer of a tag of type B decides whether its description is complete. -/
theorem complete_iso14443b {answer : Bytes} (h : answer.length = 12) :
    Complete .iso14443b (answer ++ rest) ↔
      rest = [] ∨ rest.getD 0 0 = 0 ∨ 1 + (rest.getD 0 0).toNat ≤ rest.length := by
  have hfirst : (answer ++ rest).getD 12 0 = rest.getD 0 0 := by
    rw [List.getD, List.getElem?_append_right (Nat.le_of_eq h), h, Nat.sub_self, List.getD]
  have hempty : 12 + rest.length = 12 ↔ rest.length = 0 := by omega
  have hroom (n : Nat) : 13 + n ≤ 12 + rest.length ↔ 1 + n ≤ rest.length := by omega
  rw [Complete, hfirst, List.length_append, h, hempty, hroom, ← List.length_eq_zero_iff]
  exact and_iff_right (Nat.le_add_right 12 _)

/-- A description is one of some tag if it is complete. -/
theorem exists_describes_iff {f : Family} :
    (∃ info, info.family = f ∧ Describes data info) ↔ Complete f data := by
  constructor
  · rintro ⟨info, rfl, h⟩
    cases h with
    | iso14443a hlength huid hats =>
        exact ⟨_, _, _, _, _, rfl, hlength, exists_atsIn_iff.mp ⟨_, hats⟩⟩
    | felica hcode =>
        have := exists_systemCodeIn_iff.mp ⟨_, hcode⟩
        simp [TargetInfo.family, Complete]
        omega
    | @iso14443b _ _ _ _ _ rest hcard =>
        rw [TargetInfo.family, complete_iso14443b (by simp)]
        exact exists_cardIdentifierIn_iff.mp ⟨_, hcard⟩
    | jewel => simp [TargetInfo.family, Complete]; omega
  · cases f with
    | iso14443a =>
        rintro ⟨atqa, sak, length, field, rest, rfl, hlength, hats⟩
        obtain ⟨ats, hats⟩ := exists_atsIn_iff.mpr hats
        exact ⟨_, rfl, .iso14443a hlength (stripCascadeTags_eq_iff.mp rfl) hats⟩
    | felica =>
        rintro ⟨hroom, hcode⟩
        obtain _ | ⟨length, _ | ⟨resCode, data⟩⟩ := data
        · cases hroom
        · simp at hroom
        · -- there is room for both fields, whatever their bytes are
          obtain ⟨id, data, rfl⟩ : ∃ (id : Vector UInt8 8) (rest : Bytes),
              data = id.toList ++ rest := exists_vector_append (by simp at hroom; omega)
          obtain ⟨pad, data, rfl⟩ : ∃ (pad : Vector UInt8 8) (rest : Bytes),
              data = pad.toList ++ rest := exists_vector_append (by simp at hroom; omega)
          have hcode : length.toNat ≤ 18 ∨ 2 ≤ data.length :=
            hcode.imp_right fun h => by simp at h; omega
          obtain ⟨code?, hcode⟩ := exists_systemCodeIn_iff.mpr hcode
          exact ⟨_, rfl, .felica hcode⟩
    | iso14443b =>
        intro h
        obtain ⟨atqb, rest, rfl⟩ := exists_vector_append h.1
        obtain ⟨card, hcard⟩ := exists_cardIdentifierIn_iff.mpr
          ((complete_iso14443b atqb.length_toList).mp h)
        rw [toList_eq_fields]
        exact ⟨_, rfl, .iso14443b hcard⟩
    | jewel =>
        intro hroom
        obtain ⟨sensRes, data, rfl⟩ : ∃ (sensRes : Vector UInt8 2) (rest : Bytes),
            data = sensRes.toList ++ rest :=
          exists_vector_append (Nat.le_trans (by decide) hroom)
        obtain ⟨id, rest, rfl⟩ : ∃ (id : Vector UInt8 4) (rest : Bytes), data = id.toList ++ rest :=
          exists_vector_append (by simp [Complete] at hroom; omega)
        exact ⟨_, rfl, .jewel⟩
    | _ => exact nofun

/-! ## How reading fails -/

/-- A description that breaks off is an error of the wire, wherever it does. -/
theorem leads_readAts (sak : UInt8) :
    Act.Leads (InvImage Eq Cursor.size) (· = .io) (readAts sak) := by
  refine .get_bind fun c => .ite (Cursor.leads_byte.bind fun tl => ?_) (Act.leads_pure _)
  exact .ite (Cursor.leads_take _) (Act.leads_pure _)

/-- A missing length is no failure, a piece that breaks off is. -/
theorem leads_readCardIdentifier :
    Act.Leads (InvImage Eq Cursor.size) (· = .io) readCardIdentifier := by
  refine Cursor.leads_byte.attempt.bind fun r => ?_
  cases r with
  | error e => exact Act.leads_pure 0
  | ok length =>
      exact .ite (Act.leads_pure 0) ((Cursor.leads_take _).bind fun _ => Act.leads_pure _)

/-- Reading fails as the family decides: an error of the wire, or one of a family that is not
described. -/
theorem leads_readInfo (f : Family) : Act.Leads (InvImage Eq Cursor.size)
    (· = if f ∈ described then .io else .deviceNotSupported) (readInfo f) := by
  cases f with
  | iso14443a =>
      refine .map ?_ _
      refine (Cursor.leads_vector 2).bind fun atqa => Cursor.leads_byte.bind fun sak => ?_
      refine Cursor.leads_byte.bind fun length => (Cursor.leads_take _).bind fun field => ?_
      exact (leads_readAts sak).bind fun ats => Act.leads_pure _
  | felica =>
      refine .map ?_ _
      refine Cursor.leads_byte.bind fun length => Cursor.leads_byte.bind fun resCode => ?_
      refine (Cursor.leads_vector 8).bind fun id => (Cursor.leads_vector 8).bind fun pad => ?_
      refine .ite (((Cursor.leads_vector 2).map some).bind fun _ => Act.leads_pure _) ?_
      exact Act.leads_pure _
  | iso14443b =>
      refine .map ?_ _
      refine (Cursor.leads_vector 12).bind fun atqb => ?_
      exact leads_readCardIdentifier.bind fun card => Act.leads_pure _
  | jewel =>
      refine .map ?_ _
      exact (Cursor.leads_vector 2).bind fun _ => (Cursor.leads_vector 4).bind fun _ =>
        Act.leads_pure _
  | _ => exact (Act.leads_log _ _ _).bind fun _ => Act.leads_throw rfl

/-! ## Decoding -/

variable {σ : Type} {m : Modulation}

/-- Decoding gives the target that is described, in the modulation that was asked for. -/
theorem decodeTarget_eq_ok_iff {t : Target} {s : σ} : (decodeTarget data m s).result = .ok t ↔
    t.modulation = m ∧ Describes data t.info := by
  have hread : (decodeTarget data m s).result = .ok t ↔
      ∃ info, Cursor.Reads data.length (readInfo m.family) data info ∧ ⟨m.baudRate, info⟩ = t := by
    constructor
    · intro h
      obtain ⟨info, _, hinfo, ht⟩ := Act.yields_bind.mp ⟨h, rfl⟩
      exact ⟨info, hinfo.1, (Act.yields_pure.mp ht).1⟩
    · rintro ⟨info, hinfo, rfl⟩
      have hall : (Cursor.readAll data (readInfo m.family)).Yields s info s := ⟨hinfo, rfl⟩
      exact (hall.bind _).1
  simp only [hread, reads_readInfo]
  constructor
  · rintro ⟨info, ⟨hfamily, hinfo⟩, rfl⟩
    exact ⟨congrArg (Modulation.mk · m.baudRate) hfamily, hinfo⟩
  · rintro ⟨rfl, hinfo⟩
    exact ⟨t.info, ⟨rfl, hinfo⟩, rfl⟩

/-- Decoding fails as reading does, and leaves the program's state alone. -/
theorem leads_decodeTarget (data : Bytes) (m : Modulation) : Act.Leads (Eq (α := σ))
    (· = if m.family ∈ described then .io else .deviceNotSupported) (decodeTarget data m) := by
  have hreadAll : Act.Leads (Eq (α := σ))
      (· = if m.family ∈ described then .io else .deviceNotSupported)
      (Cursor.readAll data (readInfo m.family)) :=
    fun s => ⟨rfl, (leads_readInfo m.family _).2⟩
  exact hreadAll.bind fun info => Act.leads_pure _

/-- **A description is decoded exactly if it is complete**, and then to what it says of a tag.  Any
other fails as an error of the wire, and one of a family that is not described as not supported. -/
theorem decodeTarget_iff_complete (data : Bytes) (m : Modulation) (s : σ) :
    (∀ t, (decodeTarget data m s).result = .ok t ↔ t.modulation = m ∧ Describes data t.info) ∧
      ((∃ t, (decodeTarget data m s).result = .ok t) ↔ Complete m.family data) ∧
      ((decodeTarget data m s).result =
          .error (if m.family ∈ described then .io else .deviceNotSupported) ↔
        ¬ Complete m.family data) ∧
      (decodeTarget data m s).state = s := by
  obtain ⟨hstate, herror⟩ := leads_decodeTarget data m s
  have hcomplete : (∃ t, (decodeTarget data m s).result = .ok t) ↔ Complete m.family data := by
    rw [← exists_describes_iff]
    constructor
    · rintro ⟨t, ht⟩
      obtain ⟨rfl, hinfo⟩ := decodeTarget_eq_ok_iff.mp ht
      exact ⟨t.info, rfl, hinfo⟩
    · rintro ⟨info, hfamily, hinfo⟩
      exact ⟨⟨m.baudRate, info⟩, decodeTarget_eq_ok_iff.mpr
        ⟨congrArg (Modulation.mk · m.baudRate) hfamily, hinfo⟩⟩
  refine ⟨fun t => decodeTarget_eq_ok_iff, hcomplete, ?_, hstate.symm⟩
  rw [← hcomplete]
  cases hresult : (decodeTarget data m s).result with
  | ok t => simp
  | error e => simp [herror e hresult]

/-- A tag of type A with an answer to select, whose length counts itself. -/
example : ((decodeTarget [0x03, 0x44, 0x20, 4, 1, 2, 3, 4, 3, 0x75, 0x77]
    ⟨.iso14443a, .kbps106⟩ : Op Unit Target) ()).result =
      .ok ⟨.kbps106, .iso14443a ⟨#v[0x03, 0x44], 0x20, [1, 2, 3, 4], [0x75, 0x77]⟩⟩ := rfl

end NearField.Pn53x
