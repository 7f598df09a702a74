import NearField.Proofs.ConnString
import Mathlib.Data.List.TakeWhile
import Mathlib.Data.String.Basic

/-!
# Texts between colons

The text `driver:p₁:p₂:…` puts a colon in front of every parameter, and `segments` cuts a text at
its colons.  Cutting undoes writing up to the colons inside the parameters, which are cut as well
(`segments_positionalText`).  So a driver that reads its own string finds the parts of the
parameters up to the first empty one (`decode_positionalText`), and any other driver finds nothing.
Parameters that are not empty and have no colon in them are found as they were written, the first
two of any number of them (`decode_buildPositional`).
-/

namespace NearField.ConnString

variable {σ : Type} {x y : List Char}

/-- The parts of a text, with a colon between them. -/
def joined (parts : List (List Char)) : List Char := [':'].intercalate parts

theorem joined_cons_cons (x y : List Char) (parts : List (List Char)) :
    joined (x :: y :: parts) = x ++ ':' :: joined (y :: parts) := by
  rw [joined, List.intercalate_cons_cons, List.append_assoc, List.singleton_append, ← joined]

/-- A colon is in front of every part but the first. -/
theorem joined_cons (x : List Char) (parts : List (List Char)) :
    joined (x :: parts) = x ++ parts.flatMap (':' :: ·) := by
  induction parts generalizing x with
  | nil => rw [joined, List.intercalate_singleton, List.flatMap_nil, List.append_nil]
  | cons y parts ih => rw [joined_cons_cons, ih, List.flatMap_cons, List.cons_append]

/-- What stands in front of the first colon. -/
theorem takeWhile_append_colon :
    (x ++ ':' :: y).takeWhile (· ≠ ':') = x.takeWhile (· ≠ ':') := by
  induction x with
  | nil => rfl
  | cons c x ih => rw [List.cons_append, List.takeWhile_cons, List.takeWhile_cons, ih]

theorem takeWhile_eq_self (hx : ':' ∉ x) : x.takeWhile (· ≠ ':') = x := by
  rw [List.takeWhile_eq_self_iff]
  exact fun c hc => decide_eq_true fun h => hx (h ▸ hc)

/-! ## Writing -/

theorem toList_positionalText (driver : String) (params : List String) :
    (positionalText driver params).toList =
      driver.toList ++ params.flatMap fun p => ':' :: p.toList := by
  unfold positionalText
  induction params generalizing driver with
  | nil => rw [List.foldl_nil, List.flatMap_nil, List.append_nil]
  | cons p params ih =>
      rw [List.foldl_cons, ih, String.toList_append, String.toList_append, List.append_assoc,
        List.append_assoc, List.flatMap_cons]
      rfl

/-- What is built has the text that was to be built, and every connection string of that text can
be. -/
theorem buildPositional_eq_ok_iff {driver : String} {params : List String} {c : ConnString}
    {s : σ} :
    (buildPositional driver params s).result = .ok c ↔ c.text = positionalText driver params :=
  checkSize_bind_eq_ok_iff fun _ => new_eq_ok_iff

/-- Building is of no account for the state. -/
theorem buildPositional_state (driver : String) (params : List String) (s : σ) :
    (buildPositional driver params s).state = s := by
  have hsize : Act.Keeps id (checkSize (positionalText driver params) : Op σ Unit) :=
    (Act.keeps_pure ()).ite ((Act.keeps_log _ _ _).bind fun _ => Act.keeps_throw _)
  have hnew : Act.Keeps id (new (positionalText driver params) : Op σ ConnString) := by
    intro s
    unfold new
    split <;> rfl
  exact hsize.bind (fun _ => hnew) s

/-! ## Reading -/

theorem segments_cons {c : Char} (hc : c ≠ ':') (cs : List Char) :
    segments (c :: cs) = match segments cs with
      | [] => [[c]]
      | s :: rest => (c :: s) :: rest :=
  segments.eq_3 c cs hc

/-- The first segment goes up to the first colon. -/
theorem segments_eq_cons (cs : List Char) :
    ∃ rest, segments cs = cs.takeWhile (· ≠ ':') :: rest := by
  induction cs with
  | nil => exact ⟨[], rfl⟩
  | cons c cs ih =>
      obtain ⟨rest, h⟩ := ih
      by_cases hc : c = ':'
      · subst hc
        exact ⟨segments cs, rfl⟩
      · rw [segments_cons hc, h, List.takeWhile_cons, if_pos (decide_eq_true hc)]
        exact ⟨rest, rfl⟩

/-- **A text is cut at every colon.** -/
theorem segments_append_colon (x y : List Char) :
    segments (x ++ ':' :: y) = segments x ++ segments y := by
  induction x with
  | nil => rfl
  | cons c x ih =>
      by_cases hc : c = ':'
      · subst hc
        exact congrArg ([] :: ·) ih
      · obtain ⟨rest, h⟩ := segments_eq_cons x
        rw [List.cons_append, segments_cons hc, segments_cons hc, ih, h]
        rfl

/-- A text without a colon is one segment. -/
theorem segments_of_plain (hx : ':' ∉ x) : segments x = [x] := by
  induction x with
  | nil => rfl
  | cons c x ih =>
      rw [List.mem_cons, not_or] at hx
      rw [segments_cons (Ne.symm hx.1), ih hx.2]

/-- Texts that are each written behind a colon are cut one by one. -/
theorem segments_append_flatMap (x : List Char) (params : List String) :
    segments (x ++ params.flatMap fun p => ':' :: p.toList) =
      segments x ++ params.flatMap fun p => segments p.toList := by
  induction params generalizing x with
  | nil => rw [List.flatMap_nil, List.flatMap_nil, List.append_nil, List.append_nil]
  | cons p params ih =>
      rw [List.flatMap_cons, List.cons_append, segments_append_colon, ih, List.flatMap_cons]

theorem segments_positionalText {driver : String} (hdriver : ':' ∉ driver.toList)
    (params : List String) :
    segments (positionalText driver params).toList =
      driver.toList :: params.flatMap fun p => segments p.toList := by
  rw [toList_positionalText, segments_append_flatMap, segments_of_plain hdriver]
  rfl

/-! ## What a driver finds -/

/-- What parameters say that stand behind the driver's name. -/
def Decoded.ofParams : List String → Decoded
  | [] => .driver
  | [p] => .one p
  | p :: q :: _ => .two p q

/-- What stands in front of the first colon of a text. -/
def front (text : String) : String := String.ofList (text.toList.takeWhile (· ≠ ':'))

theorem front_eq_self_iff {text : String} : front text = text ↔ ':' ∉ text.toList := by
  rw [front, ← String.toList_inj, String.toList_ofList, List.takeWhile_eq_self_iff]
  refine ⟨fun h hcolon => ?_, fun h c hc => decide_eq_true fun hcolon => h (hcolon ▸ hc)⟩
  simpa using h ':' hcolon

theorem front_eq_empty_iff {text : String} :
    front text = "" ↔ text.toList.takeWhile (· ≠ ':') = [] := by
  rw [front, ← String.toList_inj, String.toList_ofList]
  rfl

variable {driver bus : String}

/-- Who reads a string finds the parameters in it, cut at their colons, up to the first empty one,
if it is for the driver that wrote the string, and else nothing. -/
theorem decode_positionalText_eq (hdriver : ':' ∉ driver.toList) (hne : driver ≠ "")
    (params : List String) (reader bus : String) :
    decode (positionalText driver params) reader bus =
      if driver = reader ∨ driver = bus then
        .ofParams (((params.flatMap fun p => segments p.toList).takeWhile (!·.isEmpty)).map
          String.ofList)
      else .foreign := by
  have hname : (!driver.toList.isEmpty) = true := by simp [hne]
  rw [decode, segments_positionalText hdriver, List.takeWhile_cons, if_pos hname, List.map_cons,
    String.ofList_toList]
  rcases ((params.flatMap fun p => segments p.toList).takeWhile (!·.isEmpty)).map String.ofList with
    _ | ⟨p, _ | ⟨q, rest⟩⟩ <;> rfl

/-- **A driver finds the parameters of its own string**, cut at their colons, up to the first
empty one. -/
theorem decode_positionalText (hdriver : ':' ∉ driver.toList) (hne : driver ≠ "")
    (params : List String) :
    decode (positionalText driver params) driver bus =
      .ofParams (((params.flatMap fun p => segments p.toList).takeWhile (!·.isEmpty)).map
        String.ofList) := by
  rw [decode_positionalText_eq hdriver hne, if_pos (.inl rfl)]

variable {name : String} {params : List String}

/-- Behind an empty front nothing is found. -/
theorem decode_of_front_empty (hdriver : ':' ∉ driver.toList) (hne : driver ≠ "")
    (hname : front name = "") :
    decode (positionalText driver (name :: params)) driver bus = .driver := by
  obtain ⟨rest, hsegments⟩ := segments_eq_cons name.toList
  rw [decode_positionalText hdriver hne, List.flatMap_cons, hsegments,
    front_eq_empty_iff.mp hname]
  rfl

/-- The front of the first parameter is found first. -/
theorem decode_front (hdriver : ':' ∉ driver.toList) (hne : driver ≠ "")
    (hname : front name ≠ "") :
    decode (positionalText driver (name :: params)) driver bus = .one (front name) ∨
      ∃ second,
        decode (positionalText driver (name :: params)) driver bus = .two (front name) second := by
  obtain ⟨rest, hsegments⟩ := segments_eq_cons name.toList
  have hfront : (!(name.toList.takeWhile (· ≠ ':')).isEmpty) = true := by
    rw [Bool.not_eq_true', List.isEmpty_eq_false_iff]
    exact mt front_eq_empty_iff.mpr hname
  rw [decode_positionalText hdriver hne, List.flatMap_cons, hsegments, List.cons_append,
    List.takeWhile_cons, if_pos hfront, List.map_cons, ← front]
  cases ((rest ++ params.flatMap fun p => segments p.toList).takeWhile (!·.isEmpty)).map
    String.ofList with
  | nil => exact .inl rfl
  | cons second _ => exact .inr ⟨second, rfl⟩

/-! ## Plain parameters -/

/-- A text that is one segment, and not the one that ends a string. -/
def Plain (text : String) : Prop := text ≠ "" ∧ ':' ∉ text.toList

/-- Plain parameters are cut nowhere, and none of them ends the string. -/
theorem found_of_plain (hparams : ∀ p ∈ params, Plain p) :
    ((params.flatMap fun p => segments p.toList).takeWhile (!·.isEmpty)).map String.ofList =
      params := by
  have hcut : (params.flatMap fun p => segments p.toList) = params.map String.toList := by
    rw [List.map_eq_flatMap]
    exact List.flatMap_congr fun p hp => segments_of_plain (hparams p hp).2
  have hall : (params.map String.toList).takeWhile (!·.isEmpty) = params.map String.toList := by
    rw [List.takeWhile_eq_self_iff, List.forall_mem_map]
    intro p hp
    simpa using (hparams p hp).1
  rw [hcut, hall, List.map_map]
  exact List.map_id'' (fun _ => String.ofList_toList) params

/-- Two plain parameters are found as they are. -/
theorem decode_two (hdriver : ':' ∉ driver.toList) (hne : driver ≠ "") {second : String}
    (hname : ':' ∉ name.toList) (hname' : name ≠ "") (hsecond : ':' ∉ second.toList)
    (hsecond' : second ≠ "") :
    decode (positionalText driver [name, second]) driver bus = .two name second := by
  have hplain : ∀ p ∈ [name, second], Plain p := by
    rw [List.forall_mem_cons, List.forall_mem_singleton]
    exact ⟨⟨hname', hname⟩, ⟨hsecond', hsecond⟩⟩
  rw [decode_positionalText hdriver hne, found_of_plain hplain, Decoded.ofParams]

theorem Decoded.level_ofParams (params : List String) :
    (ofParams params).level = 1 + min 2 params.length := by
  match params with
  | [] | [_] => rfl
  | _ :: _ :: rest =>
      rw [List.length_cons, List.length_cons, Nat.min_eq_left (by omega)]
      rfl

theorem Decoded.first?_ofParams (params : List String) : (ofParams params).first? = params[0]? := by
  match params with
  | [] | [_] | _ :: _ :: _ => rfl

theorem Decoded.second?_ofParams (params : List String) :
    (ofParams params).second? = params[1]? := by
  match params with
  | [] | [_] | _ :: _ :: _ => rfl

/-- **Plain parameters are read back**, the first two of any number of them, by the driver that
they were written for, whether the string names it or its bus.  Anyone else is told that the string
is for another driver. -/
theorem decode_buildPositional {c : ConnString} {s : σ} (hdriver : Plain driver)
    (hparams : ∀ p ∈ params, Plain p) (hbuilt : (buildPositional driver params s).result = .ok c) :
    (∀ reader bus, driver = reader ∨ driver = bus →
        let found := decode c.text reader bus
        found.level = 1 + min 2 params.length ∧
          found.first? = params[0]? ∧ found.second? = params[1]?) ∧
      ∀ reader bus, driver ≠ reader → driver ≠ bus →
        let found := decode c.text reader bus
        found.level = 0 ∧ found.first? = none ∧ found.second? = none := by
  have hread := decode_positionalText_eq hdriver.2 hdriver.1 params
  rw [← buildPositional_eq_ok_iff.mp hbuilt, found_of_plain hparams] at hread
  refine ⟨fun reader bus hown => ?_, fun reader bus hreader hbus => ?_⟩
  · rw [hread, if_pos hown]
    exact ⟨Decoded.level_ofParams params, Decoded.first?_ofParams params,
      Decoded.second?_ofParams params⟩
  · rw [hread, if_neg (not_or.mpr ⟨hreader, hbus⟩)]
    exact ⟨rfl, rfl, rfl⟩

/-- Of three parameters the first two are read back, here for the bus. -/
theorem decode_buildPositional_bus :
    let c : ConnString := ⟨"usb:001:004:hub", by decide, by decide⟩
    let params := ["001", "004", "hub"]
    let found := decode c.text "pn53x_usb" "usb"
    (Plain "usb" ∧ ∀ p ∈ params, Plain p) ∧ (buildPositional "usb" params ()).result = .ok c ∧
      (found.level = 3 ∧ found.first? = some "001" ∧ found.second? = some "004") ∧
      (decode c.text "arygon" "").level = 0 := by
  intro c params found
  have hplain : Plain "usb" ∧ ∀ p ∈ params, Plain p := by simp [Plain, params]
  have hbuilt : (buildPositional "usb" params ()).result = .ok c :=
    buildPositional_eq_ok_iff.mpr rfl
  obtain ⟨hown, hforeign⟩ := decode_buildPositional hplain.1 hplain.2 hbuilt
  exact ⟨hplain, hbuilt, hown "pn53x_usb" "usb" (.inr rfl),
    (hforeign "arygon" "" (by decide) (by decide)).1⟩

end NearField.ConnString
