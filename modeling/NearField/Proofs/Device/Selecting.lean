import NearField.Proofs.Device.Call
import NearField.Proofs.Reader.Observed

/-!
# What a device hands to the select of its reader

A selection is checked against the tables of the reader before the reader is asked to select.
`Lists` says of a reader that it lists a modulation, and `FailsToList` how it does not: a table is
not given, or has no such entry.  One of the two is the case, and not both
(`Lists.not_failsToList`).  A listed modulation is selected once, with the data in its wire form,
and any other not at all.  `WireForm` states that form byte by byte: what each family starts with
(`InitialData`), and where the cascade tags of an identifier stand (`Cascaded`).
-/

namespace NearField.Device

/-! ## Tables -/

section Tables

variable {σ : Type} [Reader σ] {mode : Mode} {m : Modulation} {s s' : σ} {e : Error}

/-- Asked for its tables one after the other, a reader lists the family, and the speed for it. -/
inductive Lists (mode : Mode) (m : Modulation) (s s' : σ) : Prop where
  | intro {fs : List Family} {between : σ} {rates : List BaudRate}
      (hfamilies : (Reader.families mode).Yields s fs between) (hfamily : m.family ∈ fs)
      (hrates : (Reader.baudRates mode m.family).Yields between rates s')
      (hrate : m.baudRate ∈ rates)

/-- A reader gives no table, or one without the modulation.  It is not asked for the speeds of a
family that it does not list. -/
inductive FailsToList (mode : Mode) (m : Modulation) (s : σ) : Error → σ → Prop where
  | noFamilies {e : Error} {s' : σ} (hfamilies : (Reader.families mode).Fails s e s') :
      FailsToList mode m s e s'
  | otherFamilies {fs : List Family} {s' : σ} (hfamilies : (Reader.families mode).Yields s fs s')
      (hfamily : m.family ∉ fs) : FailsToList mode m s .invalidArgument s'
  | noRates {fs : List Family} {between : σ} {e : Error} {s' : σ}
      (hfamilies : (Reader.families mode).Yields s fs between) (hfamily : m.family ∈ fs)
      (hrates : (Reader.baudRates mode m.family).Fails between e s') : FailsToList mode m s e s'
  | otherRates {fs : List Family} {between : σ} {rates : List BaudRate} {s' : σ}
      (hfamilies : (Reader.families mode).Yields s fs between) (hfamily : m.family ∈ fs)
      (hrates : (Reader.baudRates mode m.family).Yields between rates s')
      (hrate : m.baudRate ∉ rates) : FailsToList mode m s .invalidArgument s'

/-- A reader lists a modulation or fails to. -/
theorem lists_or_failsToList (mode : Mode) (m : Modulation) (s : σ) :
    (∃ s', Lists mode m s s') ∨ ∃ e s', FailsToList mode m s e s' := by
  rcases (Reader.families mode).yields_or_fails s with ⟨fs, hfamilies⟩ | ⟨e, hfamilies⟩
  · by_cases hfamily : m.family ∈ fs
    · rcases (Reader.baudRates mode m.family).yields_or_fails (Reader.families mode s).state with
        ⟨rates, hrates⟩ | ⟨e, hrates⟩
      · by_cases hrate : m.baudRate ∈ rates
        · exact .inl ⟨_, hfamilies, hfamily, hrates, hrate⟩
        · exact .inr ⟨_, _, .otherRates hfamilies hfamily hrates hrate⟩
      · exact .inr ⟨_, _, .noRates hfamilies hfamily hrates⟩
    · exact .inr ⟨_, _, .otherFamilies hfamilies hfamily⟩
  · exact .inr ⟨_, _, .noFamilies hfamilies⟩

/-- It does not do both, as its tables are asked for once. -/
theorem Lists.not_failsToList {s'' : σ} (h : Lists mode m s s') : ¬ FailsToList mode m s e s'' := by
  obtain ⟨hfamilies, hfamily, hrates, hrate⟩ := h
  intro h
  -- both are about the same tables, asked for in the same order
  cases h with
  | noFamilies h => exact hfamilies.not_fails h
  | otherFamilies h hfamily' =>
      obtain ⟨rfl, -⟩ := hfamilies.unique h
      exact hfamily' hfamily
  | noRates h _ hrates' =>
      obtain ⟨-, rfl⟩ := hfamilies.unique h
      exact hrates.not_fails hrates'
  | otherRates h _ hrates' hrate' =>
      obtain ⟨-, rfl⟩ := hfamilies.unique h
      obtain ⟨rfl, -⟩ := hrates.unique hrates'
      exact hrate' hrate

variable {d : Device σ}

/-- The check asks for the tables, and passes where they list the modulation. -/
theorem validate_of_lists (h : Lists mode m d.backend s') : ∃ d', d'.backend = s' ∧
    (validate mode m).Yields d () d' := by
  obtain ⟨hfamilies, hfamily, hrates, hrate⟩ := h
  exact ⟨{ d with backend := s', lastError? := none }, rfl, yields_validate.mpr
    ⟨_, _, yields_dispatch.mpr ⟨_, hfamilies, rfl⟩, hfamily, _,
      yields_dispatch.mpr ⟨_, hrates, rfl⟩, hrate⟩⟩

/-- The check fails as the tables do, or as a missing entry does. -/
theorem validate_of_failsToList (h : FailsToList mode m d.backend e s') : ∃ d', d'.backend = s' ∧
    (validate mode m).Fails d e d' := by
  have hasked {fs : List Family} {s' : σ} (h : (Reader.families mode).Yields d.backend fs s') :
      (families mode).Yields d fs { d with backend := s', lastError? := none } :=
    yields_dispatch.mpr ⟨s', h, rfl⟩
  -- the check ends at the first table that is not given or does not have the entry
  cases h with
  | noFamilies hfamilies =>
      exact ⟨{ d with backend := s', lastError? := some e }, rfl,
        Act.Fails.bind (fails_dispatch.mpr ⟨s', hfamilies, rfl⟩) _⟩
  | otherFamilies hfamilies hfamily =>
      refine ⟨{ d with backend := s', lastError? := some .invalidArgument }, rfl, ?_⟩
      refine Act.fails_bind.mpr (.inr ⟨_, _, hasked hfamilies, ?_⟩)
      refine Act.fails_ite.mpr (.inl ⟨by simpa using hfamily, ?_⟩)
      exact Act.fails_bind.mpr (.inr ⟨(), _, Act.yields_log.mpr rfl, (fails_fail _ _).bind _⟩)
  | noRates hfamilies hfamily hrates =>
      refine ⟨{ d with backend := s', lastError? := some e }, rfl, ?_⟩
      refine Act.fails_bind.mpr (.inr ⟨_, _, hasked hfamilies, ?_⟩)
      refine Act.fails_ite.mpr (.inr ⟨by simpa using hfamily, ?_⟩)
      exact Act.Fails.bind (fails_dispatch.mpr ⟨s', hrates, rfl⟩) _
  | otherRates hfamilies hfamily hrates hrate =>
      refine ⟨{ d with backend := s', lastError? := some .invalidArgument }, rfl, ?_⟩
      refine Act.fails_bind.mpr (.inr ⟨_, _, hasked hfamilies, ?_⟩)
      refine Act.fails_ite.mpr (.inr ⟨by simpa using hfamily, ?_⟩)
      refine Act.fails_bind.mpr (.inr ⟨_, _, yields_dispatch.mpr ⟨s', hrates, rfl⟩, ?_⟩)
      refine Act.fails_ite.mpr (.inl ⟨by simpa using hrate, ?_⟩)
      exact Act.fails_bind.mpr (.inr ⟨(), _, Act.yields_log.mpr rfl, fails_fail _ _⟩)

end Tables

/-! ## Wire forms -/

/-- The bytes that a selection of a family starts with: the application families that are wanted, an
identifier, a command, or a polling request.  The families that are not named start with none. -/
inductive InitialData : Family → Bytes → Prop where
  | typeB : InitialData .iso14443b [0x00]
  | typeBi : InitialData .iso14443bi [0x01, 0x0B, 0x3F, 0x80]
  | typeB2sr : InitialData .iso14443b2sr [0x0B]
  | typeB2ct : InitialData .iso14443b2ct [0x9F, 0xFF, 0xFF]
  | felica : InitialData .felica [0x00, 0xFF, 0xFF, 0x01, 0x00]
  | none {f : Family}
      (h : f ∉ [.iso14443b, .iso14443bi, .iso14443b2sr, .iso14443b2ct, .felica]) : InitialData f []

/-- The layout of an identifier of type A: one of four bytes stands as it is, one of seven bytes
behind a cascade tag, and one of ten bytes behind two of them with three bytes between.  An
identifier of another length is not sent. -/
inductive Cascaded : Bytes → Bytes → Prop where
  | single {uid : Bytes} (h : uid.length = 4) : Cascaded uid uid
  | double {uid : Bytes} (h : uid.length = 7) : Cascaded uid (0x88 :: uid)
  | triple {first rest : Bytes} (hfirst : first.length = 3) (hrest : rest.length = 7) :
      Cascaded (first ++ rest) (0x88 :: first ++ 0x88 :: rest)
  | other {uid : Bytes} (h : uid.length ∉ [4, 7, 10]) : Cascaded uid []

/-- What goes to a reader for the data that a selection is given: what its family starts with for
none, an identifier of type A with its cascade tags, and any other data as it is. -/
inductive WireForm : Family → Bytes → Bytes → Prop where
  | initial {f : Family} {wire : Bytes} (h : InitialData f wire) : WireForm f [] wire
  | cascaded {uid wire : Bytes} (hsome : uid ≠ []) (h : Cascaded uid wire) :
      WireForm .iso14443a uid wire
  | verbatim {f : Family} {data : Bytes} (hfamily : f ≠ .iso14443a) (h : data ≠ []) :
      WireForm f data data

/-- What a family starts with is its initial data. -/
theorem initialData_iff {f : Family} {wire : Bytes} :
    InitialData f wire ↔ f.initiatorData = wire := by
  constructor
  · rintro (_ | _ | _ | _ | _ | h)
    case none => cases f <;> first | rfl | simp at h
    all_goals rfl
  · rintro rfl
    cases f
    case iso14443b => exact .typeB
    case iso14443bi => exact .typeBi
    case iso14443b2sr => exact .typeB2sr
    case iso14443b2ct => exact .typeB2ct
    case felica => exact .felica
    all_goals exact .none (by decide)

/-- The layout of an identifier is its cascade. -/
theorem cascaded_iff {uid wire : Bytes} : Cascaded uid wire ↔ Iso14443.cascade uid = wire := by
  constructor
  · rintro (h | h | ⟨hfirst, hrest⟩ | h)
    · rw [Iso14443.cascade, if_pos h]
    · rw [Iso14443.cascade, if_neg (by omega), if_pos h]
      rfl
    · rw [Iso14443.cascade, if_neg (by simp; omega), if_neg (by simp; omega),
        if_pos (by simp; omega), ← hfirst, List.take_left, List.drop_left]
      rfl
    · simp only [List.mem_cons, List.not_mem_nil, or_false, not_or] at h
      rw [Iso14443.cascade, if_neg h.1, if_neg h.2.1, if_neg h.2.2]
  · rintro rfl
    by_cases hsingle : uid.length = 4
    · rw [Iso14443.cascade, if_pos hsingle]
      exact .single hsingle
    by_cases hdouble : uid.length = 7
    · rw [Iso14443.cascade, if_neg hsingle, if_pos hdouble]
      exact .double hdouble
    rw [Iso14443.cascade, if_neg hsingle, if_neg hdouble]
    by_cases htriple : uid.length = 10
    · have hfirst : (uid.take 3).length = 3 := by simp; omega
      have hrest : (uid.drop 3).length = 7 := by simp; omega
      have hcascaded := Cascaded.triple hfirst hrest
      rw [List.take_append_drop] at hcascaded
      rwa [if_pos htriple]
    · rw [if_neg htriple]
      exact .other (by simp [hsingle, hdouble, htriple])

/-- The wire form of data is what the device makes of it. -/
theorem wireForm_iff {f : Family} {data wire : Bytes} :
    WireForm f data wire ↔ f.wireData data = wire := by
  constructor
  · rintro (h | ⟨hsome, h⟩ | ⟨hfamily, h⟩)
    · exact initialData_iff.mp h
    · rw [Family.wireData, if_neg (by simpa using hsome), if_pos rfl]
      exact cascaded_iff.mp h
    · simp [Family.wireData, hfamily, h]
  · rintro rfl
    by_cases h : data = []
    · subst h
      exact .initial (initialData_iff.mpr rfl)
    · by_cases hfamily : f = .iso14443a
      · subst hfamily
        rw [Family.wireData, if_neg (by simpa using h), if_pos rfl]
        exact .cascaded h (cascaded_iff.mpr rfl)
      · rw [Family.wireData, if_neg (by simpa using h), if_neg hfamily]
        exact .verbatim hfamily h

/-! ## Selections -/

variable {σ : Type} [Reader σ] {mode : Mode} {m : Modulation} {s s' : σ} {e : Error}

/-- Asking for the tables is not observed. -/
theorem Lists.observed (h : Lists mode m s s') (seen : List Observation) :
    Lists mode m (⟨s, seen⟩ : Observed σ) ⟨s', seen⟩ := by
  obtain ⟨hfamilies, hfamily, hrates, hrate⟩ := h
  exact ⟨Act.yields_zoom.mpr ⟨_, hfamilies, rfl⟩, hfamily, Act.yields_zoom.mpr ⟨_, hrates, rfl⟩,
    hrate⟩

/-- Nor is asking for them in vain. -/
theorem FailsToList.observed (h : FailsToList mode m s e s') (seen : List Observation) :
    FailsToList mode m (⟨s, seen⟩ : Observed σ) e ⟨s', seen⟩ := by
  cases h with
  | noFamilies hfamilies => exact .noFamilies (Act.fails_zoom.mpr ⟨_, hfamilies, rfl⟩)
  | otherFamilies hfamilies hfamily =>
      exact .otherFamilies (Act.yields_zoom.mpr ⟨_, hfamilies, rfl⟩) hfamily
  | noRates hfamilies hfamily hrates =>
      exact .noRates (Act.yields_zoom.mpr ⟨_, hfamilies, rfl⟩) hfamily
        (Act.fails_zoom.mpr ⟨_, hrates, rfl⟩)
  | otherRates hfamilies hfamily hrates hrate =>
      exact .otherRates (Act.yields_zoom.mpr ⟨_, hfamilies, rfl⟩) hfamily
        (Act.yields_zoom.mpr ⟨_, hrates, rfl⟩) hrate

variable {d : Device (Observed σ)}

/-- A listed modulation is selected where the queries left the reader. -/
theorem selectPassive_of_lists (h : Lists .initiator m d.backend.reader s) (data : Bytes) :
    let wire := m.family.wireData data
    (selectPassive m data d).result = (Reader.selectPassive m wire s).result ∧
      (selectPassive m data d).state.backend.seen =
        d.backend.seen ++ [.select m wire (Reader.selectPassive m wire s).result] := by
  intro wire
  obtain ⟨d', hbackend, hvalid⟩ := validate_of_lists (h.observed d.backend.seen)
  obtain ⟨hresult, hstate⟩ := Observed.selectPassive_run m wire d'.backend
  rw [selectPassive, (hvalid.bind _).1, (hvalid.bind _).2, (dispatch_run _ _).1,
    (dispatch_run _ _).2, hresult]
  exact ⟨by rw [hbackend], by rw [hstate, hbackend]⟩

/-- What is not listed is not selected. -/
theorem selectPassive_of_failsToList (h : FailsToList .initiator m d.backend.reader e s)
    (data : Bytes) : (selectPassive m data d).result = .error e ∧
      (selectPassive m data d).state.backend.seen = d.backend.seen := by
  obtain ⟨d', hbackend, hvalid⟩ := validate_of_failsToList (h.observed d.backend.seen)
  obtain ⟨hresult, hstate⟩ := hvalid.bind fun _ => dispatch (Reader.selectPassive m _)
  exact ⟨hresult, by rw [selectPassive, hstate, hbackend]⟩

/-- **A reader is asked to select once if it lists the modulation, and otherwise not at all.**  It
is given the data in its wire form, and what it answers is the result; otherwise that is the
failure of the table that was asked for, or an invalid argument if the table has no such entry. -/
theorem selectPassive_asks_once (d : Device (Observed σ)) (m : Modulation) (data : Bytes) :
    (∃ s wire, Lists .initiator m d.backend.reader s ∧ WireForm m.family data wire ∧
      (selectPassive m data d).result = (Reader.selectPassive m wire s).result ∧
      (selectPassive m data d).state.backend.seen =
        d.backend.seen ++ [.select m wire (Reader.selectPassive m wire s).result]) ∨
    ∃ e s, FailsToList .initiator m d.backend.reader e s ∧
      (∀ s', ¬ Lists .initiator m d.backend.reader s') ∧
      (selectPassive m data d).result = .error e ∧
      (selectPassive m data d).state.backend.seen = d.backend.seen := by
  rcases lists_or_failsToList .initiator m d.backend.reader with ⟨s, h⟩ | ⟨e, s, h⟩
  · exact .inl ⟨s, _, h, wireForm_iff.mpr rfl, selectPassive_of_lists h data⟩
  · exact .inr ⟨e, s, h, fun s' hlists => hlists.not_failsToList h,
      selectPassive_of_failsToList h data⟩

end NearField.Device
