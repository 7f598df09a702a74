import NearField.Pn53x.Description
import NearField.Proofs.Checked

/-!
# Descriptions read with checks

The decoders of target descriptions once more, as they take their bytes: a `Reading` has the whole
description and the place where it goes on, and a decoder takes a piece of it and then slices,
elements and copies of that piece.  Only taking a piece refuses bytes that are not there; every
other access counts on the piece that was taken.

Read along with a `Cursor` (`At`), every decoder ends as the one without checks, whatever the
description holds (`passes_info`, `passes_dep`).  So the lengths that a description claims do not
lead an access out of range (`passes_decodeTarget`, `passes_decodeDepTarget`).
-/

namespace NearField.Pn53x

/-- A description that is read, and the place where reading goes on. -/
structure Reading where
  data : Bytes
  pos : Nat := 0

namespace Reading

open Checked

variable {σ τ α β : Type}

/-- A cursor stands at the same place of the same description. -/
structure At (r : Reading) (c : Cursor) : Prop where
  size : c.size = r.data.length
  inside : r.pos ≤ r.data.length
  rest : c.rest = r.data.drop r.pos

/-! ## Pieces -/

/-- Takes the next `n` bytes, if they are there. -/
def take (n : Nat) : Checked Reading Bytes := do
  let r ← get
  if r.pos + n ≤ r.data.length then
    set { r with pos := r.pos + n }
    return (r.data.drop r.pos).take n
  else
    Act.log .error Log.chipTopic ("Target description truncated (" ++ toString r.data.length
      ++ " bytes, need " ++ toString (r.pos + n) ++ ")")
    throw (.error .io)

/-- The first of the next bytes. -/
def byte : Checked Reading UInt8 := do index (← take 1) 0

/-- The next `n` bytes, taken one by one. -/
def vector (n : Nat) : Checked Reading (Vector UInt8 n) := do elements n (← take n)

/-- A copy of the next `n` bytes. -/
def array (n : Nat) : Checked Reading (Vector UInt8 n) := do copy n (← take n)

/-- A piece is refused where the cursor refuses it, and reading goes on behind it. -/
theorem passes_take (n : Nat) : Passes At (take n) (Cursor.take n) := by
  refine .get_bind fun r c h => ?_
  have hroom : n ≤ c.rest.length ↔ r.pos + n ≤ r.data.length := by
    have hinside := h.inside
    rw [h.rest, List.length_drop]
    omega
  by_cases hn : r.pos + n ≤ r.data.length
  · rw [if_pos hn, if_pos (hroom.mpr hn), h.rest]
    refine fun s t _ => ⟨rfl, h.size, hn, ?_⟩
    exact List.drop_drop
  · rw [if_neg hn, if_neg (mt hroom.mp hn)]
    exact fun s t hst => ⟨rfl, hst⟩

/-- A piece that is taken has as many bytes as were asked for. -/
theorem gives_take (n : Nat) : Act.Gives (fun bs => bs.length = n) (Cursor.take n) := by
  intro c bs h
  rw [Cursor.take, (Act.get_bind _ _).1] at h
  by_cases hn : n ≤ c.rest.length
  · rw [if_pos hn] at h
    obtain rfl : c.rest.take n = bs := Except.ok.inj h
    exact List.length_take_of_le hn
  · rw [if_neg hn] at h
    cases h

/-- Whatever is made of a piece goes on with the bytes of a vector. -/
theorem passes_vector_bind {n : Nat} {f : Bytes → Checked Reading β}
    {g : Vector UInt8 n → Op Cursor β}
    (h : ∀ bs v, vector? n bs = some v → Passes At (f bs) (g v)) :
    Passes At (take n >>= f) (Cursor.vector n >>= g) := by
  rw [Cursor.vector, bind_assoc]
  refine (passes_take n).bind_gives (gives_take n) fun bs hbs => ?_
  have hv := vector?_eq_some.mpr ⟨hbs, rfl⟩
  rw [hv, pure_bind]
  exact h bs _ hv

/-- Each of the bytes of a piece is within it. -/
theorem passes_vector (n : Nat) : Passes At (vector n) (Cursor.vector n) := by
  rw [← bind_pure (Cursor.vector n)]
  refine passes_vector_bind fun bs v h => ?_
  rw [elements_eq h]
  exact passes_pure v

/-- A piece fills the array that it is copied to. -/
theorem passes_array (n : Nat) : Passes At (array n) (Cursor.vector n) := by
  rw [← bind_pure (Cursor.vector n)]
  refine passes_vector_bind fun bs v h => ?_
  rw [copy_eq h]
  exact passes_pure v

/-- A piece of one byte has a first byte. -/
theorem passes_byte : Passes At byte Cursor.byte := by
  refine passes_vector_bind fun bs v h => ?_
  obtain ⟨hlen, rfl⟩ := vector?_eq_some.mp h
  obtain ⟨b, rfl⟩ := List.length_eq_one_iff.mp hlen
  exact passes_pure b

/-! ## Type A -/

/-- Removes the cascade tags from an identifier. -/
def stripCascadeTags (uid : Bytes) : Checked σ Bytes := do
  if uid.length = 8 then
    if (← index uid 0) = Iso14443.cascadeTag then slice uid 1 uid.length else return uid
  else if uid.length = 12 then
    if (← index uid 0) = Iso14443.cascadeTag ∧ (← index uid 4) = Iso14443.cascadeTag then
      return (← slice uid 1 4) ++ (← slice uid 5 uid.length)
    else return uid
  else return uid

/-- The tags of an identifier are looked for only where its length has room for them. -/
theorem stripCascadeTags_eq (uid : Bytes) :
    (stripCascadeTags uid : Checked σ Bytes) = pure (Pn53x.stripCascadeTags uid) := by
  unfold stripCascadeTags
  by_cases h8 : uid.length = 8
  · have h0 : 0 < uid.length := by omega
    rw [if_pos h8, index_lt h0, pure_bind, slice_length h0]
    by_cases htag : uid[0] = Iso14443.cascadeTag <;> simp [Pn53x.stripCascadeTags, h8, htag]
  · by_cases h12 : uid.length = 12
    · have h0 : 0 < uid.length := by omega
      have h4 : 4 < uid.length := by omega
      rw [if_neg h8, if_pos h12, index_lt h0, pure_bind, index_lt h4, pure_bind,
        slice_eq (by decide) (Nat.le_of_lt h4), pure_bind, slice_length h4, pure_bind]
      by_cases htags : uid[0] = Iso14443.cascadeTag ∧ uid[4] = Iso14443.cascadeTag
      · simp [Pn53x.stripCascadeTags, h12, htags]
      · rw [if_neg htags]
        simp [Pn53x.stripCascadeTags, h12, htags]
    · simp [Pn53x.stripCascadeTags, h8, h12]

/-- Reads an answer to select. -/
def ats (sak : UInt8) : Checked Reading Bytes := do
  let r ← get
  if sak &&& 0x20 ≠ 0 ∧ r.pos < r.data.length then
    let tl ← byte
    if 1 < tl.toNat then take (tl.toNat - 1) else return []
  else return []

/-- Reads a tag of type A. -/
def iso14443a : Checked Reading Iso14443aInfo := do
  let atqa ← vector 2
  let sak ← byte
  let length ← byte
  let uid ← stripCascadeTags (← take length.toNat)
  let ats ← ats sak
  return ⟨atqa, sak, uid, ats⟩

/-- The length of an answer to select is read only if there is a byte for it. -/
theorem passes_ats (sak : UInt8) : Passes At (ats sak) (readAts sak) := by
  refine .get_bind fun r c h => ?_
  have hmore : c.rest ≠ [] ↔ r.pos < r.data.length := by
    rw [h.rest, ne_eq, List.drop_eq_nil_iff]
    omega
  simp only [hmore]
  refine .ite (passes_byte.bind fun tl => ?_) (passes_pure [])
  exact .ite (passes_take _) (passes_pure [])

/-- The length that a tag claims for its identifier decides what is taken, and that may be refused.
-/
theorem passes_iso14443a : Passes At iso14443a readIso14443a := by
  refine (passes_vector 2).bind fun atqa => passes_byte.bind fun sak => ?_
  refine passes_byte.bind fun length => (passes_take _).bind fun uid => ?_
  rw [stripCascadeTags_eq, pure_bind]
  exact (passes_ats sak).bind fun ats => passes_pure _

/-! ## Other families -/

/-- Reads a FeliCa tag. -/
def felica : Checked Reading FelicaInfo := do
  let length ← byte
  let resCode ← byte
  let id ← array 8
  let pad ← array 8
  let sysCode ← if 18 < length.toNat then some <$> vector 2 else pure none
  return ⟨resCode, id, pad, sysCode⟩

/-- Reads the answer to an attribution. -/
def cardIdentifier : Checked Reading UInt8 := do
  match ← attempt byte with
  | .error _ => return 0
  | .ok length =>
    if length = 0 then return 0
    let attrib ← take length.toNat
    return (← index attrib 0) &&& 0x0F

/-- Reads a tag of type B: the parts of its answer are copied out of one piece. -/
def iso14443b : Checked Reading Iso14443bInfo := do
  let atqb ← take 12
  let pupi ← copy 4 (← slice atqb 1 5)
  let applicationData ← copy 4 (← slice atqb 5 9)
  let protocolInfo ← copy 3 (← slice atqb 9 12)
  let card ← cardIdentifier
  return ⟨pupi, applicationData, protocolInfo, card⟩

/-- Reads a Jewel tag. -/
def jewel : Checked Reading JewelInfo := do
  let sensRes ← vector 2
  let id ← vector 4
  return ⟨sensRes, id⟩

/-- What is made of a value behind its reading takes no access. -/
theorem passes_map {a : Checked Reading α} {b : Op Cursor α} (h : Passes At a b) (f : α → β) :
    Passes At (f <$> a) (f <$> b) := by
  rw [map_eq_pure_bind, map_eq_pure_bind]
  exact h.bind fun x => passes_pure (f x)

/-- A system code is taken only if the tag claims the length for it. -/
theorem passes_felica : Passes At felica readFelica := by
  refine passes_byte.bind fun length => passes_byte.bind fun resCode => ?_
  refine (passes_array 8).bind fun id => (passes_array 8).bind fun pad => ?_
  refine .ite ?_ (passes_pure _)
  exact (passes_map (passes_vector 2) some).bind fun sysCode => passes_pure _

/-- An attribution without a byte has no card identifier, and is not looked into. -/
theorem passes_cardIdentifier : Passes At cardIdentifier readCardIdentifier := by
  refine passes_byte.attempt.bind fun r => ?_
  cases r with
  | error e => exact passes_pure 0
  | ok length =>
      dsimp only
      by_cases hzero : length = 0
      · rw [if_pos hzero, if_pos hzero]
        exact passes_pure 0
      · rw [if_neg hzero, if_neg hzero]
        refine (passes_take _).bind_gives (gives_take _) fun attrib hlen => ?_
        -- a length that is not zero leaves a first byte
        cases attrib with
        | nil => exact absurd (UInt8.toNat_inj.mp hlen.symm) hzero
        | cons b attrib =>
            rw [index_eq rfl, pure_bind]
            exact passes_pure _

/-- A part of a piece is copied as it is. -/
theorem copy_slice {n start stop : Nat} {bs : Bytes} {v : Vector UInt8 n}
    (hv : vector? n bs = some v) (h : start ≤ stop) (h' : stop ≤ n) :
    (slice bs start stop >>= copy (min stop n - start) : Checked σ _) =
      pure (v.extract start stop) := by
  obtain ⟨hlen, rfl⟩ := vector?_eq_some.mp hv
  rw [slice_eq h (by omega), pure_bind]
  refine copy_eq (vector?_eq_some.mpr ⟨by simp [hlen], ?_⟩)
  ext i hi
  simp

/-- The parts of an answer are copied out of the twelve bytes that were taken together. -/
theorem passes_iso14443b : Passes At iso14443b readIso14443b := by
  refine passes_vector_bind fun bs atqb h => ?_
  -- the parts are within the twelve bytes, so that none of the copies is refused
  have hpupi : (slice bs 1 5 >>= copy 4 : Checked Reading _) = pure (atqb.extract 1 5) :=
    copy_slice h (by decide) (by decide)
  have happlication : (slice bs 5 9 >>= copy 4 : Checked Reading _) = pure (atqb.extract 5 9) :=
    copy_slice h (by decide) (by decide)
  have hprotocol : (slice bs 9 12 >>= copy 3 : Checked Reading _) = pure (atqb.extract 9 12) :=
    copy_slice h (by decide) (by decide)
  rw [← bind_assoc, hpupi, pure_bind, ← bind_assoc, happlication, pure_bind, ← bind_assoc,
    hprotocol, pure_bind]
  exact passes_cardIdentifier.bind fun card => passes_pure _

/-- A Jewel tag has two pieces of fixed lengths. -/
theorem passes_jewel : Passes At jewel readJewel :=
  (passes_vector 2).bind fun _ => (passes_vector 4).bind fun _ => passes_pure _

/-! ## Whole descriptions -/

/-- Reads the description of a tag of some family. -/
def info : Family → Checked Reading TargetInfo
  | .iso14443a => TargetInfo.iso14443a <$> iso14443a
  | .felica => TargetInfo.felica <$> felica
  | .iso14443b => TargetInfo.iso14443b <$> iso14443b
  | .jewel => TargetInfo.jewel <$> jewel
  | other => do
    Act.log .debug Log.chipTopic ("Cannot decode " ++ other.text ++ " targets")
    throw (.error .deviceNotSupported)

/-- Reads a peer device; its general bytes are a slice of the whole description. -/
def dep (mode : DepMode) : Checked Reading DepInfo := do
  let _ ← take 1
  let nfcid3 ← array 10
  let p ← vector 5
  let r ← get
  let general ← slice r.data r.pos r.data.length
  return ⟨nfcid3, p.get 0, p.get 1, p.get 2, p.get 3, p.get 4, general, mode⟩

/-- Reads a whole description as part of a program. -/
def readAll (data : Bytes) (reading : Checked Reading α) : Checked σ α :=
  reading.zoom (fun _ => { data }) fun _ s => s

/-- The target that a description of some modulation stands for. -/
def decodeTarget (data : Bytes) (m : Modulation) : Checked σ Target := do
  let info ← readAll data (info m.family)
  return ⟨m.baudRate, info⟩

/-- The peer device that a description stands for. -/
def decodeDepTarget (data : Bytes) (mode : DepMode) (baudRate : BaudRate) : Checked σ Target := do
  let info ← readAll data (dep mode)
  return ⟨baudRate, .dep info⟩

/-- No description of a tag leads out of range while it is read. -/
theorem passes_info (f : Family) : Passes At (info f) (readInfo f) := by
  cases f with
  | iso14443a => exact passes_map passes_iso14443a _
  | felica => exact passes_map passes_felica _
  | iso14443b => exact passes_map passes_iso14443b _
  | jewel => exact passes_map passes_jewel _
  | _ => exact (passes_log _ _ _).bind fun _ => passes_throw _

/-- The general bytes are what is left of a description, which may be nothing. -/
theorem passes_dep (mode : DepMode) : Passes At (dep mode) (readDep mode) := by
  have hnumber : readDep mode = (do
      let _ ← Cursor.vector 1
      let nfcid3 ← Cursor.vector 10
      let p ← Cursor.vector 5
      return ⟨nfcid3, p[0], p[1], p[2], p[3], p[4], (← get).rest, mode⟩) := by
    simp only [readDep, Cursor.byte, bind_assoc, pure_bind]
  rw [hnumber]
  -- the number of the target is passed over, so its byte is taken and not looked at
  refine passes_vector_bind fun _ _ _ => (passes_array 10).bind fun nfcid3 => ?_
  refine (passes_vector 5).bind fun p => .get_bind fun r c h => ?_
  rw [slice_length h.inside, pure_bind, h.rest]
  exact passes_pure _

/-- Reading begins at the same place. -/
theorem at_start (data : Bytes) : At { data } ⟨data.length, data⟩ :=
  ⟨rfl, Nat.zero_le _, rfl⟩

variable {R : σ → τ → Prop}

/-- A description is read from its start, whatever program it is read in. -/
theorem passes_readAll {a : Checked Reading α} {b : Op Cursor α} (h : Passes At a b)
    (data : Bytes) : Passes R (readAll data a) (Cursor.readAll data b) :=
  fun _ _ hst => ⟨(h _ _ (at_start data)).1, hst⟩

/-- **No description leads out of range**, whatever tag it describes. -/
theorem passes_decodeTarget (data : Bytes) (m : Modulation) :
    Passes R (decodeTarget data m) (Pn53x.decodeTarget data m) :=
  (passes_readAll (passes_info m.family) data).bind fun _ => passes_pure _

/-- **No description leads out of range** of a peer device. -/
theorem passes_decodeDepTarget (data : Bytes) (mode : DepMode) (baudRate : BaudRate) :
    Passes R (decodeDepTarget data mode baudRate) (Pn53x.decodeDepTarget data mode baudRate) :=
  (passes_readAll (passes_dep mode) data).bind fun _ => passes_pure _

end Reading

end NearField.Pn53x
