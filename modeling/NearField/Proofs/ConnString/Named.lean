import NearField.Proofs.ConnString
import NearField.Proofs.ConnString.Positional

/-!
# Named parameters

A connection string of the grammar names its driver and then parameters `key=value`, each behind
a colon.  Looking up a key does not look at the keys: it takes what follows the first `key=` that
stands anywhere behind the driver's name, up to the next colon (`findAfter?_eq_some_iff`).  No
colon is inside a parameter, so the first parameter that has `key=` in it decides
(`readAfter?_joined`).  That need not be the parameter of that key: `transport=serial` mentions the
key `port`.  `parse_namedText_iff` says what a key gets, and when it is refused.
-/

namespace NearField.ConnString

variable {pattern cs rest x y : List Char}

/-! ## First occurrences -/

/-- What follows the first occurrence of a pattern in a text. -/
def FollowsFirst (pattern cs rest : List Char) : Prop :=
  ∃ before, cs = before ++ pattern ++ rest ∧
    ∀ before' rest', cs = before' ++ pattern ++ rest' → before.length ≤ before'.length

/-- A pattern occurs first in one place. -/
theorem FollowsFirst.unique {rest' : List Char} (h : FollowsFirst pattern cs rest)
    (h' : FollowsFirst pattern cs rest') : rest = rest' := by
  obtain ⟨before, hcs, hfirst⟩ := h
  obtain ⟨before', hcs', hfirst'⟩ := h'
  have hlength : before.length = before'.length :=
    Nat.le_antisymm (hfirst _ _ hcs') (hfirst' _ _ hcs)
  have hboth : before ++ pattern ++ rest = before' ++ pattern ++ rest' := hcs.symm.trans hcs'
  exact (List.append_inj hboth (by rw [List.length_append, List.length_append, hlength])).2

/-- A pattern that is not found is nowhere in the text. -/
theorem findAfter?_eq_none (h : findAfter? pattern cs = none) : ¬ pattern <:+: cs := by
  induction cs with
  | nil =>
      rintro hinfix
      rw [List.infix_nil.mp hinfix] at h
      cases h
  | cons c cs ih =>
      unfold findAfter? at h
      split at h
      · cases h
      · rename_i hstands
        rw [List.isPrefixOf_iff_prefix] at hstands
        rw [List.infix_cons_iff]
        exact not_or.mpr ⟨hstands, ih h⟩

/-- What is found stands behind the first occurrence. -/
theorem followsFirst_of_findAfter? (h : findAfter? pattern cs = some rest) :
    FollowsFirst pattern cs rest := by
  induction cs with
  | nil =>
      unfold findAfter? at h
      split at h
      · rename_i hempty
        cases h
        rw [List.isEmpty_iff.mp hempty]
        exact ⟨[], rfl, fun _ _ _ => Nat.zero_le _⟩
      · cases h
  | cons c cs ih =>
      unfold findAfter? at h
      split at h
      · rename_i hstands
        obtain ⟨tail, htail⟩ := List.isPrefixOf_iff_prefix.mp hstands
        rw [← htail, List.drop_left, Option.some.injEq] at h
        subst h
        exact ⟨[], htail.symm, fun _ _ _ => Nat.zero_le _⟩
      · rename_i hstands
        rw [List.isPrefixOf_iff_prefix] at hstands
        obtain ⟨before, rfl, hfirst⟩ := ih h
        refine ⟨c :: before, rfl, fun before' rest' he => ?_⟩
        -- the pattern does not stand in front, so another occurrence is behind `c` as well
        cases before' with
        | nil => exact absurd ⟨rest', he.symm⟩ hstands
        | cons d before' =>
            rw [List.cons_append, List.cons_append, List.cons.injEq] at he
            exact Nat.succ_le_succ (hfirst before' rest' he.2)

/-- **The first occurrence decides.** -/
theorem findAfter?_eq_some_iff :
    findAfter? pattern cs = some rest ↔ FollowsFirst pattern cs rest := by
  refine ⟨followsFirst_of_findAfter?, fun h => ?_⟩
  cases hfound : findAfter? pattern cs with
  | none =>
      obtain ⟨before, hcs, -⟩ := h
      exact absurd ⟨before, rest, hcs.symm⟩ (findAfter?_eq_none hfound)
  | some rest' => rw [(followsFirst_of_findAfter? hfound).unique h]

theorem findAfter?_eq_none_iff : findAfter? pattern cs = none ↔ ¬ pattern <:+: cs := by
  refine ⟨findAfter?_eq_none, fun h => Option.eq_none_iff_forall_ne_some.mpr fun rest hfound => ?_⟩
  obtain ⟨before, hcs, -⟩ := followsFirst_of_findAfter? hfound
  exact h ⟨before, rest, hcs.symm⟩

/-! ## Texts between colons -/

/-- A pattern without a colon does not reach over one. -/
theorem prefix_append_colon_iff (hpattern : ':' ∉ pattern) :
    pattern <+: x ++ ':' :: y ↔ pattern <+: x := by
  refine ⟨fun h => ?_, fun h => h.trans (List.prefix_append _ _)⟩
  rcases Nat.lt_or_ge x.length pattern.length with hlt | hle
  · have hcolon : x ++ [':'] <+: pattern := by
      refine List.prefix_of_prefix_length_le ⟨y, ?_⟩ h ?_
      · rw [List.append_assoc, List.singleton_append]
      · rw [List.length_append, List.length_singleton]
        exact hlt
    exact absurd (hcolon.subset (List.mem_append_right _ List.mem_cons_self)) hpattern
  · exact List.prefix_of_prefix_length_le h (List.prefix_append _ _) hle

/-- A pattern without a colon is looked for in front of a colon, and then behind it. -/
theorem findAfter?_append_colon (hpattern : ':' ∉ pattern) (hne : pattern ≠ []) :
    findAfter? pattern (x ++ ':' :: y) =
      match findAfter? pattern x with
      | some rest => some (rest ++ ':' :: y)
      | none => findAfter? pattern y := by
  induction x with
  | nil =>
      have hempty : findAfter? pattern [] = none := by
        rw [findAfter?_eq_none_iff, List.infix_nil]
        exact hne
      have hfront : ¬ pattern.isPrefixOf (':' :: y) = true := by
        rw [List.isPrefixOf_iff_prefix, ← List.nil_append (':' :: y),
          prefix_append_colon_iff hpattern, List.prefix_nil]
        exact hne
      rw [hempty, List.nil_append, findAfter?, if_neg hfront]
  | cons c x ih =>
      have hfront : pattern.isPrefixOf (c :: (x ++ ':' :: y)) = true ↔
          pattern.isPrefixOf (c :: x) = true := by
        rw [List.isPrefixOf_iff_prefix, List.isPrefixOf_iff_prefix, ← List.cons_append,
          prefix_append_colon_iff hpattern]
      rw [List.cons_append, findAfter?, findAfter?]
      by_cases h : pattern.isPrefixOf (c :: x) = true
      · have hle : pattern.length ≤ (c :: x).length :=
          (List.isPrefixOf_iff_prefix.mp h).length_le
        rw [if_pos (hfront.mpr h), if_pos h, ← List.cons_append,
          List.drop_append_of_le_length hle]
      · rw [if_neg (mt hfront.mp h), if_neg h, ih]

/-- What a text says of a pattern: what follows it first, up to a colon. -/
def readAfter? (pattern cs : List Char) : Option (List Char) :=
  (findAfter? pattern cs).map (List.takeWhile (· ≠ ':'))

/-- **The first part that has the pattern in it decides.** -/
theorem readAfter?_joined (hpattern : ':' ∉ pattern) (hne : pattern ≠ [])
    (parts : List (List Char)) :
    readAfter? pattern (joined parts) = parts.findSome? (readAfter? pattern) := by
  induction parts with
  | nil =>
      have hempty : findAfter? pattern [] = none := by
        rw [findAfter?_eq_none_iff, List.infix_nil]
        exact hne
      rw [readAfter?, joined, List.intercalate_nil, hempty]
      rfl
  | cons x parts ih =>
      cases parts with
      | nil =>
          rw [joined, List.intercalate_singleton, List.findSome?_singleton]
      | cons y parts =>
          rw [joined_cons_cons, readAfter?, findAfter?_append_colon hpattern hne,
            List.findSome?_cons, ← ih, readAfter?, readAfter?]
          cases findAfter? pattern x with
          | none => rfl
          | some rest => exact congrArg some takeWhile_append_colon

/-! ## Parameters -/

/-- A named parameter of the grammar. -/
structure NamedParameter where
  key : String
  value : String
  key_plain : ':' ∉ key.toList ∧ '=' ∉ key.toList
  value_plain : ':' ∉ value.toList
  short : value.utf8ByteSize < 256

namespace NamedParameter

/-- A parameter as it is written. -/
def text (p : NamedParameter) : String := p.key ++ "=" ++ p.value

/-- The parameter has `key=` in it. -/
def Mentions (p : NamedParameter) (key : String) : Prop :=
  ∃ before after, p.text = before ++ key ++ "=" ++ after

/-- The value follows the first `key=` in the parameter. -/
def Reads (p : NamedParameter) (key value : String) : Prop :=
  ∃ before, p.text = before ++ key ++ "=" ++ value ∧
    ∀ before' value', p.text = before' ++ key ++ "=" ++ value' → before.length ≤ before'.length

theorem toList_text (p : NamedParameter) :
    p.text.toList = p.key.toList ++ '=' :: p.value.toList := by
  rw [text, String.toList_append, String.toList_append, List.append_assoc]
  rfl

/-- There is no colon in a parameter as it is written. -/
theorem text_plain (p : NamedParameter) : ':' ∉ p.text.toList := by
  rw [toList_text, List.mem_append, List.mem_cons]
  rintro (h | h | h)
  · exact p.key_plain.1 h
  · exact absurd h (by decide)
  · exact p.value_plain h

end NamedParameter

/-- What is looked for to find a key. -/
def keyPattern (key : String) : List Char := key.toList ++ ['=']

theorem keyPattern_ne_nil (key : String) : keyPattern key ≠ [] :=
  List.append_ne_nil_of_right_ne_nil _ (List.cons_ne_nil _ _)

theorem toList_around (before key after : String) :
    (before ++ key ++ "=" ++ after).toList =
      before.toList ++ keyPattern key ++ after.toList := by
  simp [keyPattern]

/-- A parameter mentions a key if the pattern stands in its text. -/
theorem NamedParameter.mentions_iff {p : NamedParameter} {key : String} :
    p.Mentions key ↔ keyPattern key <:+: p.text.toList := by
  refine ⟨?_, ?_⟩
  · rintro ⟨before, after, h⟩
    exact ⟨before.toList, after.toList, by rw [h, toList_around]⟩
  · rintro ⟨before, after, h⟩
    refine ⟨String.ofList before, String.ofList after, String.toList_inj.mp ?_⟩
    rw [toList_around, String.toList_ofList, String.toList_ofList, h]

/-- What a parameter reads for a key is what follows the pattern first in its text. -/
theorem NamedParameter.reads_iff {p : NamedParameter} {key value : String} :
    p.Reads key value ↔ FollowsFirst (keyPattern key) p.text.toList value.toList := by
  refine ⟨?_, ?_⟩
  · rintro ⟨before, h, hfirst⟩
    refine ⟨before.toList, by rw [h, toList_around], fun before' rest' he => ?_⟩
    rw [String.length_toList]
    have := hfirst (String.ofList before') (String.ofList rest')
      (String.toList_inj.mp (by rw [toList_around, String.toList_ofList, String.toList_ofList, he]))
    rwa [String.length_ofList] at this
  · rintro ⟨before, h, hfirst⟩
    refine ⟨String.ofList before, String.toList_inj.mp ?_, fun before' value' he => ?_⟩
    · rw [toList_around, String.toList_ofList, h]
    · rw [String.length_ofList, ← String.length_toList]
      exact hfirst _ value'.toList (by rw [he, toList_around])

/-! ## Looking up a key -/

section Lookup

variable {σ : Type} {driver key value : String} {ps : List NamedParameter}

/-- The parameters behind the driver's name. -/
def namedText (driver : String) (ps : List NamedParameter) : String :=
  positionalText driver (ps.map NamedParameter.text)

/-- What is searched for a key. -/
def namedBody (ps : List NamedParameter) : List Char :=
  joined (ps.map fun p => p.text.toList)

theorem dropColon_flatMap (parts : List (List Char)) :
    dropColon (parts.flatMap (':' :: ·)) = joined parts := by
  cases parts with
  | nil => rfl
  | cons x parts => rw [joined_cons, List.flatMap_cons]; rfl

/-- Every parameter has a colon in front. -/
theorem toList_namedText (driver : String) (ps : List NamedParameter) :
    (namedText driver ps).toList =
      driver.toList ++ (ps.map fun p => p.text.toList).flatMap (':' :: ·) := by
  rw [namedText, toList_positionalText, List.flatMap_map, List.flatMap_map]

/-- The driver's name stands in front of what is searched. -/
theorem searched_namedText (driver : String) (ps : List NamedParameter) :
    driver.toList.isPrefixOf (namedText driver ps).toList = true ∧
      dropColon ((namedText driver ps).toList.drop driver.toList.length) = namedBody ps := by
  rw [toList_namedText, List.isPrefixOf_iff_prefix, List.drop_left, dropColon_flatMap]
  exact ⟨List.prefix_append _ _, rfl⟩

/-! Every value that is read is at the end of some parameter's value. -/

theorem byteSize_eq_utf8Len (cs : List Char) : byteSize cs = String.utf8Len cs := by
  induction cs with
  | nil => rfl
  | cons c cs ih => rw [byteSize_cons, String.utf8Len_cons, ih, Nat.add_comm]

/-- The end of a value is as short as the value. -/
theorem NamedParameter.byteSize_lt_of_suffix (p : NamedParameter) (h : x <:+ p.value.toList) :
    byteSize x < valueCapacity := by
  refine Nat.lt_of_le_of_lt ?_ p.short
  rw [← String.ofList_toList (s := p.value), String.utf8ByteSize_ofList, byteSize_eq_utf8Len]
  exact String.utf8Len_le_of_suffix h

/-- Of two places in a text one is in front of the other, or they are the same. -/
theorem append_cons_cases {c d : Char} {x' y' : List Char} (h : x ++ c :: y = x' ++ d :: y') :
    (∃ z, x = x' ++ d :: z ∧ y' = z ++ c :: y) ∨ (x = x' ∧ c = d ∧ y = y') ∨
      ∃ z, y = z ++ d :: y' := by
  rcases List.append_eq_append_iff.mp h with ⟨z, rfl, hz⟩ | ⟨z, rfl, hz⟩
  · cases z with
    | nil => simp_all
    | cons e z => exact .inr (.inr ⟨z, (List.cons.inj hz).2⟩)
  · cases z with
    | nil => simp_all
    | cons e z =>
        obtain ⟨rfl, rfl⟩ := List.cons.inj hz
        exact .inl ⟨z, rfl, rfl⟩

/-- Behind any equals sign of a parameter there is only value. -/
theorem NamedParameter.suffix_value (p : NamedParameter) (h : p.text.toList = x ++ '=' :: y) :
    y <:+ p.value.toList := by
  rw [toList_text] at h
  rcases append_cons_cases h with ⟨z, hkey, -⟩ | ⟨-, -, rfl⟩ | ⟨z, hz⟩
  · have hmem : '=' ∈ p.key.toList := by simp [hkey]
    exact absurd hmem p.key_plain.2
  · exact List.suffix_rfl
  · exact ⟨z ++ ['='], by simp [hz]⟩

/-- What is read behind an equals sign is the end of a value. -/
theorem takeWhile_after_equals (h : namedBody ps = x ++ '=' :: y) :
    ∃ p ∈ ps, y.takeWhile (· ≠ ':') <:+ p.value.toList := by
  have hvalue {p : NamedParameter} {x z : List Char} (hp : p.text.toList = x ++ '=' :: z) :
      z.takeWhile (· ≠ ':') <:+ p.value.toList := by
    rw [takeWhile_eq_self fun hz => p.text_plain (by simp [hp, hz])]
    exact p.suffix_value hp
  induction ps generalizing x with
  | nil => cases x <;> cases h
  | cons p ps ih =>
      cases ps with
      | nil =>
          rw [namedBody, List.map_singleton, joined, List.intercalate_singleton] at h
          exact ⟨p, List.mem_cons_self, hvalue h⟩
      | cons q ps =>
          rw [namedBody, List.map_cons, List.map_cons, joined_cons_cons] at h
          -- the equals sign is in the first parameter or behind the colon that follows it
          rcases append_cons_cases h with ⟨z, hp, rfl⟩ | ⟨-, hne, -⟩ | ⟨z, hz⟩
          · rw [takeWhile_append_colon]
            exact ⟨p, List.mem_cons_self, hvalue hp⟩
          · exact absurd hne (by decide)
          · obtain ⟨r, hr, hsuffix⟩ := ih hz
            exact ⟨r, List.mem_cons_of_mem _ hr, hsuffix⟩

/-- Whatever is read has room in the buffer for a value. -/
theorem byteSize_of_readAfter? (h : readAfter? (keyPattern key) (namedBody ps) = some x) :
    byteSize x < valueCapacity := by
  obtain ⟨y, hfound, rfl⟩ := Option.map_eq_some_iff.mp h
  obtain ⟨before, hbody, -⟩ := findAfter?_eq_some_iff.mp hfound
  have hequals : namedBody ps = (before ++ key.toList) ++ '=' :: y := by
    simp [hbody, keyPattern]
  obtain ⟨p, -, hsuffix⟩ := takeWhile_after_equals hequals
  exact p.byteSize_lt_of_suffix hsuffix

/-- A key gets what is read for it, which is never too long. -/
theorem parse_namedText (s : σ) : (parse (namedText driver ps) driver key s).result =
    match readAfter? (keyPattern key) (namedBody ps) with
    | none => .error .invalidArgument
    | some value => .ok (String.ofList value) := by
  obtain ⟨hfront, hbody⟩ := searched_namedText driver ps
  have hshort (rest : List Char) (h : findAfter? (keyPattern key) (namedBody ps) = some rest) :
      ¬ valueCapacity ≤ byteSize (rest.takeWhile (· ≠ ':')) :=
    Nat.not_le.mpr (byteSize_of_readAfter? (by rw [readAfter?, h, Option.map_some]))
  rw [parse, parameter, hfront, hbody, readAfter?, ← keyPattern]
  cases h : findAfter? (keyPattern key) (namedBody ps) with
  | none => rfl
  | some rest =>
      simp only [hshort rest h, if_false, Bool.not_true, Bool.false_eq_true, Option.map_some]
      rfl

/-- A key gets what follows its pattern first, behind the driver's name. -/
theorem parse_namedText_eq_ok (s : σ) :
    (parse (namedText driver ps) driver key s).result = .ok value ↔
      readAfter? (keyPattern key) (namedBody ps) = some value.toList := by
  rw [parse_namedText]
  cases readAfter? (keyPattern key) (namedBody ps) <;> simp [← String.toList_inj]

/-- A text mentions a key if the pattern stands behind the driver's name. -/
theorem mentioned_iff : (∃ before after, namedText driver ps =
      driver ++ ":" ++ before ++ key ++ "=" ++ after) ↔
    keyPattern key <:+: namedBody ps := by
  simp only [← String.toList_inj, toList_around]
  simp only [String.toList_append, List.append_assoc, toList_namedText, List.append_cancel_left_eq]
  refine ⟨?_, ?_⟩
  · rintro ⟨before, after, h⟩
    rw [namedBody, ← dropColon_flatMap, h]
    exact ⟨before.toList, after.toList, List.append_assoc _ _ _⟩
  · rintro ⟨before, after, h⟩
    refine ⟨String.ofList before, String.ofList after, ?_⟩
    cases ps with
    | nil => simp [namedBody, joined, keyPattern_ne_nil] at h
    | cons p ps =>
        rw [namedBody, List.map_cons, joined_cons] at h
        simp [← h]

/-! ## The parameter that decides -/

/-- The first parameter that has `key=` in it. -/
def FirstMention (ps : List NamedParameter) (key : String) (q : NamedParameter) : Prop :=
  q.Mentions key ∧ ∃ earlier later, ps = earlier ++ q :: later ∧ ∀ r ∈ earlier, ¬ r.Mentions key

/-- In a parameter by itself, what is read for a key is all that follows it. -/
theorem NamedParameter.readAfter?_eq_some (p : NamedParameter) :
    readAfter? (keyPattern key) p.text.toList = some value.toList ↔ p.Reads key value := by
  have hplain {rest : List Char} (h : findAfter? (keyPattern key) p.text.toList = some rest) :
      rest.takeWhile (· ≠ ':') = rest := by
    obtain ⟨before, htext, -⟩ := findAfter?_eq_some_iff.mp h
    exact takeWhile_eq_self fun hcolon => p.text_plain (by simp [htext, hcolon])
  rw [reads_iff, ← findAfter?_eq_some_iff, readAfter?]
  cases h : findAfter? (keyPattern key) p.text.toList with
  | none => simp
  | some rest => rw [Option.map_some, hplain h]

theorem NamedParameter.readAfter?_eq_none (p : NamedParameter) :
    readAfter? (keyPattern key) p.text.toList = none ↔ ¬ p.Mentions key := by
  rw [mentions_iff, ← findAfter?_eq_none_iff, readAfter?, Option.map_eq_none_iff]

/-- A parameter that is read for a key mentions it. -/
theorem NamedParameter.Reads.mentions {p : NamedParameter} (h : p.Reads key value) :
    p.Mentions key :=
  let ⟨before, htext, _⟩ := h
  ⟨before, value, htext⟩

/-- **The first parameter that mentions a key decides what the key gets.** -/
theorem parse_eq_ok_iff_firstMention (hkey : ':' ∉ key.toList) (s : σ) :
    (parse (namedText driver ps) driver key s).result = .ok value ↔
      ∃ q, FirstMention ps key q ∧ q.Reads key value := by
  have hpattern : ':' ∉ keyPattern key := by simp [keyPattern, hkey]
  rw [parse_namedText_eq_ok, namedBody, readAfter?_joined hpattern (keyPattern_ne_nil key),
    List.findSome?_map, List.findSome?_eq_some_iff]
  simp only [Function.comp_apply, NamedParameter.readAfter?_eq_some,
    NamedParameter.readAfter?_eq_none]
  refine ⟨?_, ?_⟩
  · rintro ⟨earlier, q, later, hps, hreads, hearlier⟩
    exact ⟨q, ⟨hreads.mentions, earlier, later, hps, hearlier⟩, hreads⟩
  · rintro ⟨q, ⟨-, earlier, later, hps, hearlier⟩, hreads⟩
    exact ⟨earlier, q, later, hps, hreads, hearlier⟩

/-- A key is refused if it is mentioned nowhere. -/
theorem parse_eq_error_iff (s : σ) :
    (∃ e, (parse (namedText driver ps) driver key s).result = .error e) ↔
      ¬ ∃ before after, namedText driver ps =
        driver ++ ":" ++ before ++ key ++ "=" ++ after := by
  rw [mentioned_iff, ← findAfter?_eq_none_iff, ← Option.map_eq_none_iff, ← readAfter?,
    parse_namedText]
  cases readAfter? (keyPattern key) (namedBody ps) <;> simp

/-- **What a key gets.**  A key gets what the first parameter that mentions it has behind it,
whether or not that is the parameter of this key.  It is refused exactly if it stands nowhere
behind the driver's name in front of an equals sign. -/
theorem parse_namedText_iff (driver : String) (ps : List NamedParameter) (s : σ) :
    (∀ key value, ':' ∉ key.toList →
      ((parse (namedText driver ps) driver key s).result = .ok value ↔
        ∃ q, FirstMention ps key q ∧ q.Reads key value)) ∧
      ∀ key, (∃ e, (parse (namedText driver ps) driver key s).result = .error e) ↔
        ¬ ∃ before after, namedText driver ps =
          driver ++ ":" ++ before ++ key ++ "=" ++ after :=
  ⟨fun _ _ hkey => parse_eq_ok_iff_firstMention hkey s, fun _ => parse_eq_error_iff s⟩

/-- **A key may get the value of another, and a key that is not there may get a value.**  The
parameter `transport=serial` mentions the key `port`. -/
theorem parse_namedText_mistaken :
    (¬ ∀ (driver : String) (ps : List NamedParameter), (ps.map NamedParameter.key).Nodup →
      ∀ p ∈ ps, (parse (namedText driver ps) driver p.key ()).result = .ok p.value) ∧
    ¬ ∀ (driver : String) (ps : List NamedParameter), (ps.map NamedParameter.key).Nodup →
      ∀ key ∉ ps.map NamedParameter.key,
        ∃ e, (parse (namedText driver ps) driver key ()).result = .error e := by
  let transport : NamedParameter :=
    ⟨"transport", "serial", by decide, by decide, by decide⟩
  let port : NamedParameter := ⟨"port", "/dev/ttyS0", by decide, by decide, by decide⟩
  refine ⟨fun h => ?_, fun h => ?_⟩
  · have hfound : (parse (namedText "pn532_uart" [transport, port]) "pn532_uart" "port" ()).result =
        .ok "serial" := by decide +kernel
    have hright := h "pn532_uart" [transport, port] (by decide) port (by simp)
    exact absurd (hfound.symm.trans hright) (by decide)
  · have hfound : (parse (namedText "pn532_uart" [transport]) "pn532_uart" "port" ()).result =
        .ok "serial" := by decide +kernel
    obtain ⟨e, he⟩ := h "pn532_uart" [transport] (by decide) "port" (by decide)
    cases hfound.symm.trans he

end Lookup

end NearField.ConnString
