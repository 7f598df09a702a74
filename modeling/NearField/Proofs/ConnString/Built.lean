import NearField.Proofs.ConnString.Named

/-!
# What is built is read back

Building `driver:key=value` gives the connection string of that text, if there is one
(`build_eq_ok_iff`).  The driver and the key are written as they are, with any colons and equals
signs in them, and a look-up takes both off again: it skips the driver and its colon, and the key
stands right behind, so no place further on is found before it (`parameter_written`).  What is read
ends at the first colon of the value, and is refused if that is too long (`parse_build`).
-/

namespace NearField.ConnString

variable {σ τ : Type} {driver key value : String} {c : ConnString}

/-- The driver, the key and the value in one text. -/
def written (driver key value : String) : String := driver ++ ":" ++ key ++ "=" ++ value

theorem toList_written : (written driver key value).toList =
    driver.toList ++ ':' :: (keyPattern key ++ value.toList) := by
  simp [written, keyPattern]

/-- What is built has the text that was to be built, and every connection string of that text can
be. -/
theorem build_eq_ok_iff {s : σ} :
    (build driver key value s).result = .ok c ↔ c.text = written driver key value :=
  checkSize_bind_eq_ok_iff fun _ => new_eq_ok_iff

/-- A pattern in front of a text is found there. -/
theorem findAfter?_append (pattern rest : List Char) :
    findAfter? pattern (pattern ++ rest) = some rest :=
  findAfter?_eq_some_iff.mpr ⟨[], rfl, fun _ _ _ => Nat.zero_le _⟩

theorem byteSize_takeWhile (text : String) :
    byteSize (text.toList.takeWhile (· ≠ ':')) = (front text).utf8ByteSize := by
  rw [front, String.utf8ByteSize_ofList, byteSize_eq_utf8Len]

/-- **The key is found where it was written**, whatever the driver and the key are made of. -/
theorem parameter_written :
    parameter (written driver key value).toList driver.toList key.toList =
      if (front value).utf8ByteSize < valueCapacity then .ok (front value).toList
      else .error (.tooLong (front value).utf8ByteSize) := by
  have hfront : (!driver.toList.isPrefixOf (written driver key value).toList) = false := by
    rw [toList_written, Bool.not_eq_false', List.isPrefixOf_iff_prefix]
    exact List.prefix_append _ _
  have hbody : dropColon ((written driver key value).toList.drop driver.toList.length) =
      keyPattern key ++ value.toList := by
    rw [toList_written, List.drop_left]
    rfl
  rw [parameter, hfront, if_neg Bool.false_ne_true, hbody, ← keyPattern, findAfter?_append]
  simp only [byteSize_takeWhile]
  by_cases h : (front value).utf8ByteSize < valueCapacity
  · rw [if_neg (Nat.not_le.mpr h), if_pos h, front, String.toList_ofList]
  · rw [if_pos (Nat.not_lt.mp h), if_neg h]

theorem parse_written (s : σ) : (parse (written driver key value) driver key s).result =
    if (front value).utf8ByteSize < 256 then .ok (front value) else .error .bufferOverflow := by
  rw [parse, parameter_written, valueCapacity]
  by_cases h : (front value).utf8ByteSize < 256
  · rw [if_pos h, if_pos h]
    exact congrArg Except.ok String.ofList_toList
  · rw [if_neg h, if_neg h]
    rfl

/-- **What is built is read back up to the first colon of the value.**  Building succeeds if the
text is short and printable.  Then the driver that built it reads, for the same key, the part of
the value in front of its first colon, or reports an overflow if that takes 256 bytes or more.  So a
short value without a colon is read back as it was. -/
theorem parse_build (driver key value : String) (s : σ) :
    let text := driver ++ ":" ++ key ++ "=" ++ value
    ((∃ c, (build driver key value s).result = .ok c) ↔
      text.utf8ByteSize < 1024 ∧ ∀ x ∈ text.toList, 0x20 ≤ x.toNat ∧ x.toNat ≤ 0x7E) ∧
      ∀ c, (build driver key value s).result = .ok c → ∀ t : τ,
        (parse c.text driver key t).result =
            (if (front value).utf8ByteSize < 256 then .ok (front value)
              else .error .bufferOverflow) ∧
          (':' ∉ value.toList → value.utf8ByteSize < 256 →
            (parse c.text driver key t).result = .ok value) := by
  intro text
  refine ⟨?_, fun c hc t => ?_⟩
  · rw [← exists_text_iff]
    exact exists_congr fun _ => build_eq_ok_iff
  · rw [build_eq_ok_iff.mp hc, parse_written]
    refine ⟨rfl, fun hplain hshort => ?_⟩
    rw [front_eq_self_iff.mpr hplain, if_pos hshort]

/-- The rest of a value is lost behind a colon, and an equals sign in the key is not. -/
theorem parse_build_colon :
    let c : ConnString := ⟨"arygon:a=port=COM3:9600", by decide, by decide⟩
    (build "arygon" "a=port" "COM3:9600" ()).result = .ok c ∧
      (parse c.text "arygon" "a=port" ()).result = .ok "COM3" := by
  intro c
  have hbuilt : (build "arygon" "a=port" "COM3:9600" ()).result = .ok c :=
    build_eq_ok_iff.mpr rfl
  have hfront : front "COM3:9600" = "COM3" := by decide
  have hread := ((parse_build "arygon" "a=port" "COM3:9600" ()).2 c hbuilt ()).1
  rw [hfront, if_pos (by decide)] at hread
  exact ⟨hbuilt, hread⟩

end NearField.ConnString
