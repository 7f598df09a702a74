import NearField.Pcsc.Driver
import NearField.Proofs.ConnString.Positional
import NearField.Proofs.Noted

/-!
# Readers found through a smart card service

A scan reports supported readers of the service, each by a string with its name behind the
driver's (`mem_scan`), and all of them whose names fit such a string (`yields_scan`).  When such a
string is claimed, the service is asked to connect to one reader, whose name is what stands in
front of the first colon (`notes_claim`): the name of a supported reader is too long to be taken
for a place in the list.

`CardService.noted` is a service that notes the names that it is asked to connect to.
-/

namespace NearField.Pcsc

open ConnString

variable {ε ω κ : Type} {w w' : ω} {c : ConnString} {name : String}

/-- A service that notes the names of the readers that it is asked to connect to. -/
def CardService.noted (service : CardService ω κ) : CardService (Noted String ω) κ where
  readers := Noted.passing service.readers
  connect name share protocols := Noted.noting name (service.connect name share protocols)

/-! ## Reports -/

/-- The first supported names are kept, as many as there is room for. -/
theorem yields_supported (room : Nat) (names : List String) (w : ω) :
    (supported room names : Act ε ω _).Yields w ((names.filter isSupported).take room) w := by
  induction names generalizing room with
  | nil => cases room <;> exact ⟨rfl, rfl⟩
  | cons name names ih =>
      cases room with
      | zero => exact ⟨rfl, rfl⟩
      | succ room =>
          refine Act.yields_ite.mpr ?_
          by_cases h : isSupported name = true
          · rw [List.filter_cons_of_pos h]
            exact .inl ⟨h, Act.yields_bind.mpr ⟨_, w, ih room, rfl, rfl⟩⟩
          · rw [List.filter_cons_of_neg h]
            exact .inr ⟨h, Act.yields_bind.mpr ⟨(), w, ⟨rfl, rfl⟩, ih (room + 1)⟩⟩

theorem yields_scanNames {service : CardService ω κ} {names : List String}
    (h : (service.readers w).result = .ok names) (max : Nat) :
    (scanNames service max : Act ε ω _).Yields w ((names.filter isSupported).take max)
      (service.readers w).state := by
  refine Act.yields_bind.mpr ⟨.ok names, _, ⟨congrArg Except.ok h, rfl⟩, ?_⟩
  exact yields_supported max names _

/-- A name that a connection string can be built from. -/
def Fits (name : String) : Prop := ∃ c : ConnString, c.text = positionalText driverName [name]

instance (name : String) : Decidable (Fits name) :=
  inferInstanceAs (Decidable (∃ c : ConnString, c.text = positionalText driverName [name]))

/-- The names that fit are reported, in their order. -/
theorem yields_connStrings (names : List String) (w : ω) :
    ∃ found, (connStrings names : Act ε ω _).Yields w found w ∧
      found.map text = (names.filter (Fits ·)).map fun name =>
        positionalText driverName [name] := by
  induction names with
  | nil => exact ⟨[], ⟨rfl, rfl⟩, rfl⟩
  | cons name names ih =>
      obtain ⟨others, hothers, htexts⟩ := ih
      let built := (buildPositional driverName [name] : Op ω _) w
      have hyields : (connStrings (name :: names) : Act ε ω _).Yields w
          (built.result.toOption.toList ++ others) w :=
        Act.yields_bind.mpr ⟨built.result, w, ⟨rfl, buildPositional_state _ _ w⟩,
          Act.yields_bind.mpr ⟨others, w, hothers, rfl, rfl⟩⟩
      refine ⟨_, hyields, ?_⟩
      rw [List.map_append, htexts]
      -- a name that is no connection string is left out, and the scan goes on
      by_cases hfits : Fits name
      · rw [List.filter_cons, if_pos (decide_eq_true hfits), List.map_cons]
        obtain ⟨c, hc⟩ := hfits
        have hbuilt : built.result = .ok c := buildPositional_eq_ok_iff.mpr hc
        rw [← hc, hbuilt]
        rfl
      · have hbuilt : built.result.toOption = none := by
          cases h : built.result with
          | error e => rfl
          | ok c => exact absurd ⟨c, buildPositional_eq_ok_iff.mp h⟩ hfits
        rw [List.filter_cons, if_neg (mt of_decide_eq_true hfits), hbuilt]
        rfl

/-- **What a scan reports**: of the supported names, as many as were asked for, those that fit. -/
theorem yields_scan {service : CardService ω κ} {names : List String}
    (h : (service.readers w).result = .ok names) (max : Nat) :
    ∃ found, ((driver service).scan max).Yields w found (service.readers w).state ∧
      found.map text = (((names.filter isSupported).take max).filter (Fits ·)).map fun name =>
        positionalText driverName [name] := by
  obtain ⟨found, hfound, htexts⟩ :=
    yields_connStrings ((names.filter isSupported).take max) (service.readers w).state
  exact ⟨found, Act.yields_bind.mpr ⟨_, _, yields_scanNames h max, hfound⟩, htexts⟩

/-- A scan reports supported readers by their names. -/
theorem mem_scan {service : CardService ω κ} {max : Nat} {found : List ConnString}
    (h : ((driver service).scan max).Yields w found w') (hc : c ∈ found) :
    ∃ names name, (service.readers w).result = .ok names ∧ name ∈ names ∧
      isSupported name = true ∧ c.text = positionalText driverName [name] := by
  cases hnames : (service.readers w).result with
  | error e =>
      have hnone : ((driver service).scan max).Yields w [] (service.readers w).state :=
        Act.yields_bind.mpr ⟨[], _, Act.yields_bind.mpr
          ⟨.error e, _, ⟨congrArg Except.ok hnames, rfl⟩, rfl, rfl⟩, rfl, rfl⟩
      rw [(h.unique hnone).1] at hc
      cases hc
  | ok names =>
      obtain ⟨reported, hreported, htexts⟩ := yields_scan hnames max
      obtain rfl : found = reported := (h.unique hreported).1
      have htext : c.text ∈ found.map text := List.mem_map_of_mem hc
      rw [htexts] at htext
      obtain ⟨name, hname, heq⟩ := List.mem_map.mp htext
      have hlisted := List.mem_filter.mp (List.mem_of_mem_take (List.mem_of_mem_filter hname))
      exact ⟨names, name, rfl, hlisted.1, hlisted.2, heq.symm⟩

/-! ## Claims -/

/-- More of a supported name than a place has digits stands in front of its first colon. -/
theorem lt_length_front (h : isSupported name = true) : 4 < (front name).toList.length := by
  obtain ⟨p, hp, hfront⟩ := List.any_eq_true.mp h
  obtain ⟨rest, hname⟩ := List.isPrefixOf_iff_prefix.mp hfront
  have hknown : (supportedNames.all fun p =>
      decide (4 < p.toList.length) && p.toList.all fun c => decide (c ≠ ':')) = true := by decide
  obtain ⟨hlong, hplain⟩ := Bool.and_eq_true_iff.mp (List.all_eq_true.mp hknown p hp)
  have hpos : ∀ c ∈ p.toList, decide (c ≠ ':') = true := List.all_eq_true.mp hplain
  rw [front, String.toList_ofList, ← hname, List.takeWhile_append_of_pos hpos, List.length_append]
  exact Nat.lt_add_right _ (of_decide_eq_true hlong)

/-- The string of a supported reader asks for what stands in front of the first colon of its
name. -/
theorem resolve_scanned (service : CardService ω κ) (h : isSupported name = true)
    (hc : c.text = positionalText driverName [name]) : resolve service c = pure (front name) := by
  have hlong := lt_length_front h
  have hplace : parseIndex? (front name) = none := by
    have hdigits : ¬ (front name).toList.length ≤ 4 := by omega
    simp [parseIndex?, hdigits]
  have hne : front name ≠ "" := by
    rintro hempty
    rw [hempty] at hlong
    exact absurd hlong (by decide)
  unfold resolve
  rw [hc]
  rcases @decode_front driverName driverName name [] (by decide) (by decide) hne with
    hone | ⟨second, htwo⟩
  · simp only [hone, hplace]
  · simp only [htwo, hplace]

/-- What comes of connecting to a reader. -/
def CardService.connected (service : CardService ω κ) (name : String) (w : ω) :
    Except Error (Claim (Connection κ)) :=
  match (service.connect name .direct .t0 w).result with
  | .ok key => .ok ⟨name, Connection.new key name⟩
  | .error e => .error e.toError

/-- The reader that is asked for is connected to, and no other. -/
theorem claim_of_resolve {service : CardService ω κ} {n n' : Noted String ω}
    (h : (resolve service.noted c).Yields n name n') :
    (claim service.noted c n).state.notes = n'.notes ++ [name] ∧
      (claim service.noted c n).result = service.connected name n'.world := by
  have hresult : (service.noted.connect name .direct .t0 n').result =
    (service.connect name .direct .t0 n'.world).result := rfl
  rw [claim, (h.bind _).1, (h.bind _).2, (Act.log_bind _ _ _ _ _).1, (Act.log_bind _ _ _ _ _).2,
    (Act.attempt_bind _ _ _).1, (Act.attempt_bind _ _ _).2, hresult, CardService.connected]
  cases (service.connect name .direct .t0 n'.world).result <;> exact ⟨rfl, rfl⟩

/-- **One reader is connected to**: the one whose name stands in front of the first colon. -/
theorem notes_claim (service : CardService ω κ) (h : isSupported name = true)
    (hc : c.text = positionalText driverName [name]) (n : Noted String ω) :
    (claim service.noted c n).state.notes = n.notes ++ [front name] := by
  have hresolved : (resolve service.noted c).Yields n (front name) n := by
    rw [resolve_scanned _ h hc]
    exact ⟨rfl, rfl⟩
  exact (claim_of_resolve hresolved).1

end NearField.Pcsc
