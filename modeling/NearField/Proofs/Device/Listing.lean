import NearField.Proofs.Device.Calling
import NearField.Proofs.Device.Search
import NearField.Simulated.ScriptedReader
import Mathlib.Data.List.Nodup

/-!
# Listing targets, as the reader sees it

The reader of a device that lists targets is asked to select, to let go, to select again, and
so on.  `Ends` describes a listing by the answers alone: the answers of a run are an `Ends`
(`ends_of_search`), and where an `Ends` stops and what it finds is a fact on lists
(`stopsAt_iff`, `Ends.found_eq`).  Put together they say what a listing does
(`listPassive_seen`): it stops at the first answer that is not a new target, or when there is
room for no more, and it gives every target once, in the order in which they were found.
-/

namespace NearField.Device
open Simulated

/-- What a reader answers to a selection. -/
abbrev Answer : Type := Except Error (Option Target)

/-- A listing with room for `n` targets beside `found` ends with these answers, having found
these targets, after this failure if there was one. -/
inductive Ends (m : Modulation) :
    Nat → List Target → List Answer → List Target → Option Error → Prop where
  | failed {n : Nat} {found : List Target} {e : Error} :
      Ends m (n + 1) found [.error e] found (some e)
  | silent {n : Nat} {found : List Target} : Ends m (n + 1) found [.ok none] found none
  | again {n : Nat} {found : List Target} {t : Target} (ht : t ∈ found) :
      Ends m (n + 1) found [.ok (some t)] found none
  | last {n : Nat} {found : List Target} {t : Target} (ht : t ∉ found)
      (hlast : n = 0 ∨ m.family.singleAttempt = true) :
      Ends m (n + 1) found [.ok (some t)] (found ++ [t]) none
  | more {n : Nat} {found found' : List Target} {t : Target} {rs : List Answer}
      {failure : Option Error} (ht : t ∉ found) (hn : n ≠ 0)
      (hs : m.family.singleAttempt = false) (rest : Ends m n (found ++ [t]) rs found' failure) :
      Ends m (n + 1) found (.ok (some t) :: rs) found' failure

/-- The targets among some answers. -/
def targets (rs : List Answer) : List Target := rs.filterMap fun r => r.toOption.join

@[simp] theorem targets_nil : targets [] = [] := rfl

@[simp] theorem targets_some (t : Target) (rs : List Answer) :
    targets (.ok (some t) :: rs) = t :: targets rs := rfl

@[simp] theorem targets_none (rs : List Answer) : targets (.ok none :: rs) = targets rs := rfl

@[simp] theorem targets_error (e : Error) (rs : List Answer) :
    targets (.error e :: rs) = targets rs := rfl

theorem eraseDups_of_nodup {l : List Target} (h : l.Nodup) : l.eraseDups = l := by
  induction l with
  | nil => rfl
  | cons t l ih =>
      obtain ⟨ht, hl⟩ := List.nodup_cons.mp h
      rw [List.eraseDups_cons, List.filter_eq_self.mpr, ih hl]
      intro u hu
      simpa using fun h : u = t => ht (h ▸ hu)

/-- A listing of at most `max` targets is over with an answer: it is not a target, or one that
an earlier answer was, or there is room for no more, or one selection is all there is. -/
def StopsAt (m : Modulation) (max : Nat) (rs : List Answer) (i : Nat) : Prop :=
  (∀ t, rs[i]? ≠ some (.ok (some t))) ∨ (∃ j < i, rs[j]? = rs[i]?) ∨ i + 1 = max ∨
    m.family.singleAttempt = true

namespace Ends

variable {m : Modulation} {n : Nat} {found found' : List Target} {rs : List Answer}
  {failure : Option Error}

theorem ne_nil (h : Ends m n found rs found' failure) : rs ≠ [] := by
  cases h <;> simp

/-- What was found stays found. -/
theorem prefix_found (h : Ends m n found rs found' failure) : found <+: found' := by
  induction h with
  | last => exact List.prefix_append _ _
  | more _ _ _ _ ih => exact (List.prefix_append _ _).trans ih
  | _ => exact List.prefix_rfl

theorem length_found_le (h : Ends m n found rs found' failure) :
    found'.length ≤ found.length + n := by
  induction h with
  | more _ _ _ _ ih =>
      rw [List.length_append, List.length_singleton] at ih
      omega
  | _ => simp

/-- No target is found twice. -/
theorem nodup (h : Ends m n found rs found' failure) (hf : found.Nodup) : found'.Nodup := by
  induction h with
  | last ht _ => exact List.concat_eq_append ▸ hf.concat ht
  | more ht _ _ _ ih => exact ih (List.concat_eq_append ▸ hf.concat ht)
  | _ => exact hf

/-- What is found are the targets among the answers, each once. -/
theorem found_eq (h : Ends m n found rs found' failure) (hf : found.Nodup) :
    found' = (found ++ targets rs).eraseDups := by
  induction h with
  | failed => simp [eraseDups_of_nodup hf]
  | silent => simp [eraseDups_of_nodup hf]
  | again ht => simp [List.eraseDups_append, eraseDups_of_nodup hf, List.removeAll, ht]
  | last ht _ =>
      exact (eraseDups_of_nodup (List.concat_eq_append ▸ hf.concat ht)).symm
  | more ht _ _ _ ih =>
      rw [ih (List.concat_eq_append ▸ hf.concat ht), List.append_assoc]
      rfl

/-- A listing fails with nothing found exactly when its first answer is that failure. -/
theorem failed_iff (h : Ends m n [] rs found' failure) {e : Error} :
    found' = [] ∧ failure = some e ↔ rs[0]? = some (.error e) := by
  cases h with
  | failed => simp
  | silent => simp
  | again ht => cases ht
  | last => simp
  | more _ _ _ rest =>
      obtain ⟨l, rfl⟩ := rest.prefix_found
      simp

/-- The answers by which the targets were found that are there already. -/
def past (found : List Target) : List Answer := found.map fun t => .ok (some t)

theorem past_append_singleton (found : List Target) (t : Target) :
    past (found ++ [t]) ++ rs = past found ++ .ok (some t) :: rs := by
  simp [past]

/-- When the answer that comes after those of the past ends a listing. -/
theorem stopsAt_past {max : Nat} {r : Answer} :
    StopsAt m max (past found ++ r :: rs) found.length ↔
      (∀ t, r ≠ .ok (some t)) ∨ (∃ t ∈ found, .ok (some t) = r) ∨ found.length + 1 = max ∨
        m.family.singleAttempt = true := by
  have hlen : (past found).length = found.length := List.length_map _
  have hat : (past found ++ r :: rs)[found.length]? = some r := by
    rw [List.getElem?_append_right (Nat.le_of_eq hlen), hlen, Nat.sub_self]
    rfl
  have hbefore : (∃ j < found.length, (past found ++ r :: rs)[j]? = some r) ↔
      ∃ t ∈ found, .ok (some t) = r := by
    refine ⟨?_, ?_⟩
    · rintro ⟨j, hj, h⟩
      rw [List.getElem?_append_left (hlen ▸ hj)] at h
      exact List.mem_map.mp (List.mem_of_getElem? h)
    · rintro ⟨t, ht, rfl⟩
      obtain ⟨j, hj, rfl⟩ := List.getElem_of_mem ht
      refine ⟨j, hj, ?_⟩
      rw [List.getElem?_append_left (hlen ▸ hj), past, List.getElem?_map,
        List.getElem?_eq_getElem hj]
      rfl
  rw [StopsAt, hat, hbefore]
  simp only [ne_eq, Option.some.injEq]

/-- **A listing stops** with its last answer and not before. -/
theorem stopsAt_iff (h : Ends m n found rs found' failure) {i : Nat} (hi : i < rs.length) :
    StopsAt m (found.length + n) (past found ++ rs) (found.length + i) ↔ i + 1 = rs.length := by
  -- Every constructor but `more` has one answer, which is the last one.
  induction h generalizing i with
  | failed =>
      obtain rfl : i = 0 := by simpa using hi
      exact iff_of_true (stopsAt_past.mpr (.inl nofun)) rfl
  | silent =>
      obtain rfl : i = 0 := by simpa using hi
      exact iff_of_true (stopsAt_past.mpr (.inl nofun)) rfl
  | again ht =>
      obtain rfl : i = 0 := by simpa using hi
      exact iff_of_true (stopsAt_past.mpr (.inr (.inl ⟨_, ht, rfl⟩))) rfl
  | last ht hlast =>
      obtain rfl : i = 0 := by simpa using hi
      refine iff_of_true (stopsAt_past.mpr (.inr (.inr (hlast.imp ?_ id)))) rfl
      rintro rfl
      rfl
  | more ht hn hs rest ih =>
      -- The first answer is none of the four kinds that end a listing; for the others it is one
      -- more answer of the past.
      cases i with
      | zero =>
          refine iff_of_false (fun hstop => ?_) fun h => rest.ne_nil ?_
          · rcases stopsAt_past.mp hstop with h | ⟨t, hmem, h⟩ | h | h
            · exact h _ rfl
            · cases h
              exact ht hmem
            · omega
            · rw [hs] at h
              cases h
          · exact List.length_eq_zero_iff.mp (Nat.succ.inj h).symm
      | succ i =>
          have := ih (Nat.lt_of_succ_lt_succ hi)
          rw [past_append_singleton, List.length_append, List.length_singleton] at this
          rw [List.length_cons, Nat.succ_inj, ← this]
          apply iff_of_eq
          congr 1 <;> omega

end Ends

/-! ## What the reader sees -/

/-- A reader supports a modulation, and its unbounded selection can be switched, as long as its
state is in `P`.  No call that a listing makes leaves `P`. -/
structure Supports {σ : Type} [Reader σ] (m : Modulation) (P : σ → Prop) : Prop where
  families : ∀ s, P s → ∃ fs s', (Reader.families .initiator).Yields s fs s' ∧
    m.family ∈ fs ∧ P s'
  baudRates : ∀ s, P s → ∃ rs s', (Reader.baudRates .initiator m.family).Yields s rs s' ∧
    m.baudRate ∈ rs ∧ P s'
  setBool : ∀ s enable, P s → ∃ s', (Reader.setBool .infiniteSelect enable).Yields s () s' ∧ P s'
  selectPassive : ∀ s, P s → P (Reader.selectPassive m (m.family.wireData []) s).state
  deselect : ∀ s, P s → P (Reader.deselect s).state

/-- Selections with these answers, with deselections that end in these ways between them. -/
def exchange (m : Modulation) : List Answer → List (Except Error Unit) → List Observation
  | [], _ => []
  | r :: rs, q :: qs => .select m (m.family.wireData []) r :: .deselect q :: exchange m rs qs
  | r :: _, [] => [.select m (m.family.wireData []) r]

variable {σ : Type} [Reader σ] {m : Modulation} {P : σ → Prop}

theorem selectPassive_seen (hm : Supports m P) {d d' : Device (Observed σ)} {r : Answer}
    (hd : P d.backend.reader) (hr : (selectPassive m [] d).result = r)
    (hd' : (selectPassive m [] d).state = d') :
    d'.backend.seen = d.backend.seen ++ [.select m (m.family.wireData []) r] ∧
      P d'.backend.reader := by
  obtain ⟨fs, s₁, hfs, hf, h₁⟩ := hm.families _ hd
  obtain ⟨rs, s₂, hrs, hmem, h₂⟩ := hm.baudRates _ h₁
  have hvalid : (validate .initiator m).Yields d () _ :=
    yields_validate.mpr ⟨fs, _, yields_dispatch.mpr ⟨_, Act.yields_zoom.mpr ⟨s₁, hfs, rfl⟩, rfl⟩,
      hf, rs, yields_dispatch.mpr ⟨_, Act.yields_zoom.mpr ⟨s₂, hrs, rfl⟩, rfl⟩, hmem⟩
  rw [selectPassive, (hvalid.bind _).1, (dispatch_run _ _).1,
    (Observed.selectPassive_run _ _ _).1] at hr
  rw [selectPassive, (hvalid.bind _).2, (dispatch_run _ _).2,
    (Observed.selectPassive_run _ _ _).2] at hd'
  subst hr hd'
  exact ⟨rfl, hm.selectPassive _ h₂⟩

theorem deselect_seen (hm : Supports m P) {d : Device (Observed σ)} (hd : P d.backend.reader) :
    (deselect d).state.backend.seen = d.backend.seen ++ [.deselect (deselect d).result] ∧
      P (deselect d).state.backend.reader := by
  rw [deselect, (dispatch_run _ _).1, (dispatch_run _ _).2, (Observed.deselect_run _).1,
    (Observed.deselect_run _).2]
  exact ⟨rfl, hm.deselect _ hd⟩

/-- A switch that the reader takes is set and seen. -/
theorem setBool_observed {d : Device (Observed σ)} {enable : Bool} {s : σ}
    (h : (Reader.setBool .infiniteSelect enable).Yields d.backend.reader () s) :
    (setBool .infiniteSelect enable).Yields d () { d with
      backend := ⟨s, d.backend.seen ++ [.setBool .infiniteSelect enable (.ok ())]⟩
      lastError? := none, infiniteSelect := enable } := by
  have hset : (Reader.setBool .infiniteSelect enable).Yields d.backend ()
      ⟨s, d.backend.seen ++ [.setBool .infiniteSelect enable (.ok ())]⟩ := by
    rw [Act.Yields, (Observed.setBool_run _ _ _).1, (Observed.setBool_run _ _ _).2, h.1, h.2]
    exact ⟨rfl, rfl⟩
  exact yields_setBool.mpr ⟨_, hset, rfl⟩

theorem setBool_seen (hm : Supports m P) {d : Device (Observed σ)} (hd : P d.backend.reader)
    (enable : Bool) : ∃ d', (setBool .infiniteSelect enable).Yields d () d' ∧
      d'.backend.seen = d.backend.seen ++ [.setBool .infiniteSelect enable (.ok ())] ∧
      P d'.backend.reader := by
  obtain ⟨s, hs, hP⟩ := hm.setBool _ enable hd
  exact ⟨_, setBool_observed hs, rfl, hP⟩

/-- The answers of a run are those of a listing, and selections alternate with deselections. -/
theorem ends_of_search (hm : Supports m P) {n : Nat} {found : List Target}
    {d d' : Device (Observed σ)} {r : List Target × Option Error} (h : Search m n found d r d')
    (hn : n ≠ 0) (hd : P d.backend.reader) :
    ∃ rs qs, Ends m n found rs r.1 r.2 ∧ qs.length + 1 = rs.length ∧
      d'.backend.seen = d.backend.seen ++ exchange m rs qs ∧ P d'.backend.reader := by
  -- on the loop, which ends at its first selection or goes on behind a deselection
  induction h with
  | full => exact absurd rfl hn
  | failed h =>
      obtain ⟨hseen, hP⟩ := selectPassive_seen hm hd h.1 h.2
      exact ⟨[_], [], .failed, rfl, hseen, hP⟩
  | silent h =>
      obtain ⟨hseen, hP⟩ := selectPassive_seen hm hd h.1 h.2
      exact ⟨[_], [], .silent, rfl, hseen, hP⟩
  | again h ht =>
      obtain ⟨hseen, hP⟩ := selectPassive_seen hm hd h.1 h.2
      exact ⟨[_], [], .again ht, rfl, hseen, hP⟩
  | last h ht hlast =>
      obtain ⟨hseen, hP⟩ := selectPassive_seen hm hd h.1 h.2
      exact ⟨[_], [], .last ht hlast, rfl, hseen, hP⟩
  | @more _ _ _ d₁ _ _ _ h ht hroom hs _ ih =>
      obtain ⟨hseen, hP⟩ := selectPassive_seen hm hd h.1 h.2
      obtain ⟨hseen', hP'⟩ := deselect_seen hm hP
      obtain ⟨rs, qs, hends, hlen, hrest, hP''⟩ := ih hroom hP'
      refine ⟨_ :: rs, (deselect d₁).result :: qs, .more ht hroom hs hends, congrArg (· + 1) hlen,
        ?_, hP''⟩
      rw [hrest, hseen', hseen, List.append_assoc, List.append_assoc]
      rfl

theorem switchBack_seen (hm : Supports m P) {d : Device (Observed σ)} (hd : P d.backend.reader)
    (otherwise : Bool) : ∃ d', (switchBack otherwise true).Yields d () d' ∧
      d'.backend.seen = d.backend.seen ++
        (if otherwise then [.setBool .infiniteSelect true (.ok ())] else []) := by
  cases otherwise with
  | false => exact ⟨d, Act.yields_pure.mpr ⟨rfl, rfl⟩, (List.append_nil _).symm⟩
  | true =>
      obtain ⟨d', on, hseen, -⟩ := setBool_seen hm hd true
      exact ⟨d', on, hseen⟩

/-- **What a listing does**, whatever its reader answers, with an observer or without.  Unbounded
selection is switched off, the reader is asked to select, and to let go before it is asked again,
and the switch is set back if it was on.  The answers `rs` go on until one of them ends the listing;
the listing fails when the first of them is a failure, and else gives the targets among them, each
once. -/
theorem listPassive_seen (hm : Supports m P) {max : Nat} (hmax : max ≠ 0)
    {d : Device (Observed σ)} (hd : P d.backend.reader) :
    let o := listPassive m max d
    AsUnobserved (.listPassive m max) d ∧
    ∃ (rs : List Answer) (qs : List (Except Error Unit)), qs.length + 1 = rs.length ∧
      o.state.backend.seen = d.backend.seen ++
        [.setBool .infiniteSelect false (.ok ())] ++ exchange m rs qs ++
        (if d.infiniteSelect then [.setBool .infiniteSelect true (.ok ())] else []) ∧
      (∀ i < rs.length, StopsAt m max rs i ↔ i + 1 = rs.length) ∧
      (∀ e, o.result = .error e ↔ rs[0]? = some (.error e)) ∧
      (∀ found, o.result = .ok found →
        found = (targets rs).eraseDups ∧ found.Nodup ∧ found.length ≤ max) := by
  intro o
  obtain ⟨d₁, off, hseen₁, hP₁⟩ := setBool_seen (d := d.cleared) hm hd false
  obtain ⟨r, d₂, search, hsearch⟩ := search_collect m max [] d₁
  obtain ⟨rs, qs, hends, hlen, hseen₂, hP₂⟩ := ends_of_search hm hsearch hmax hP₁
  obtain ⟨d₃, back, hseen₃⟩ := switchBack_seen hm hP₂ d.infiniteSelect
  -- the listing is its switch, its loop and the switch back, and none of them fails
  have hrun : o.result = listed r ∧ o.state = d₃ := by
    unfold o
    rw [listPassive_eq hmax, (Act.modify_bind _ _ _).1, (Act.modify_bind _ _ _).2,
      (Act.get_bind _ _).1, (Act.get_bind _ _).2, (off.bind _).1, (off.bind _).2,
      (search.bind _).1, (search.bind _).2, cleared_infiniteSelect, (back.bind _).1,
      (back.bind _).2, Act.ofExcept_apply]
    exact ⟨rfl, rfl⟩
  refine ⟨asUnobserved_call _ d, rs, qs, hlen, ?_, fun i hi => ?_, fun e => ?_, fun found h => ?_⟩
  · rw [hrun.2, hseen₃, hseen₂, hseen₁]
    simp [cleared]
  · simpa [Ends.past] using hends.stopsAt_iff hi
  · rw [hrun.1, listed_eq_error]
    exact hends.failed_iff
  · rw [hrun.1] at h
    obtain rfl := listed_eq_ok h
    exact ⟨by simpa using hends.found_eq List.nodup_nil, hends.nodup List.nodup_nil,
      by simpa using hends.length_found_le⟩

/-- A switch that is not broken is set. -/
theorem yields_setBool_scripted {r : ScriptedReader} (h : r.failingProperty = none)
    (p : Property) (enable : Bool) : (ScriptedReader.setBool p enable).Yields r ()
      { r with properties := r.properties ++ [(p, enable)] } := by
  refine Act.yields_bind.mpr ⟨r, r, Act.yields_get.mpr ⟨rfl, rfl⟩, Act.yields_ite.mpr ?_⟩
  exact .inr ⟨by simp [h], Act.yields_set.mpr rfl⟩

/-- A scripted reader supports tags of type A if its tables do and no switch is broken. -/
theorem supports_scripted : Supports ⟨.iso14443a, .kbps106⟩ fun r : ScriptedReader =>
    .iso14443a ∈ r.families ∧ .kbps106 ∈ r.baudRates ∧ r.failingProperty = none where
  families r h := ⟨r.families, r, ⟨rfl, rfl⟩, h.1, h⟩
  baudRates r h := ⟨r.baudRates, r, ⟨rfl, rfl⟩, h.2.1, h⟩
  setBool r enable h := ⟨_, yields_setBool_scripted h.2.2 .infiniteSelect enable, h⟩
  selectPassive r h := by
    have hstate : (ScriptedReader.selectPassive ⟨.iso14443a, .kbps106⟩ [] r).state =
        { r with
          selects := r.selects ++ [(⟨.iso14443a, .kbps106⟩, [])],
          selectResults := r.selectResults.drop 1 } := by
      simp [ScriptedReader.selectPassive, Act.bind_apply]
    exact hstate ▸ h
  deselect _ h := h

/-- A tag of type A that answers at some speed. -/
def tag (rate : BaudRate) : Target := ⟨rate, .iso14443a ⟨#v[0x00, 0x04], 0x08, [0x01], []⟩⟩

/-- A device whose reader finds two tags and then fails. -/
def twoTags : Device (Observed ScriptedReader) :=
  plain ⟨{ selectResults := [.ok (some (tag .kbps106)), .ok (some (tag .kbps212)),
    .error .rfTransmission] }, []⟩

/-- Both tags are listed, in the order in which they were found. -/
theorem listPassive_seen_twoTags :
    (listPassive ⟨.iso14443a, .kbps106⟩ 4 twoTags).result = .ok [tag .kbps106, tag .kbps212] ∧
      [tag .kbps106, tag .kbps212].Nodup ∧
      ∃ (rs : List Answer) (qs : List (Except Error Unit)), qs.length + 1 = rs.length ∧
        ∀ i < rs.length, StopsAt ⟨.iso14443a, .kbps106⟩ 4 rs i ↔ i + 1 = rs.length := by
  obtain ⟨-, rs, qs, hlen, -, hstops, -, hok⟩ := listPassive_seen supports_scripted
    (show 4 ≠ 0 by decide) (d := twoTags) ⟨by decide, by decide, rfl⟩
  have hresult : (listPassive ⟨.iso14443a, .kbps106⟩ 4 twoTags).result =
      .ok [tag .kbps106, tag .kbps212] := rfl
  obtain ⟨-, hnodup, -⟩ := hok _ hresult
  exact ⟨hresult, hnodup, rs, qs, hlen, hstops⟩

end NearField.Device
