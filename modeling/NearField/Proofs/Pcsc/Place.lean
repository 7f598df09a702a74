import NearField.Proofs.Scans

/-!
# Readers by their place

A connection string can name a reader by its place, `pcsc:0` for the first.  The place is looked up
among the supported names (`claim_place`).  A scan reports only those of them that a connection
string can be built from (`reports_map_text`), so the reader that a scan reports at a place is the
one that is opened exactly if the names that do not fit leave that place alone
(`opens_reported_iff`).
-/

namespace NearField.Pcsc

open ConnString

variable {ω κ : Type} {service : CardService ω κ} {c : ConnString} {w w' : ω} {n : Nat}
  {names : List String}

/-! ## Reading a place -/

theorem toList_toString (n : Nat) : (toString n).toList = Nat.toDigits 10 n := by
  rw [Nat.toString_eq_ofList_toDigits, String.toList_ofList]

theorem isDigit_of_mem_toString {x : Char} (h : x ∈ (toString n).toList) : x.isDigit = true := by
  rw [toList_toString] at h
  exact Nat.isDigit_of_mem_toDigits (by decide) (by decide) h

theorem toString_ne_empty (n : Nat) : toString n ≠ "" := by
  rw [Ne, ← String.toList_inj, toList_toString]
  exact Nat.toDigits_ne_nil

/-- No digit is a colon. -/
theorem front_toString (n : Nat) : front (toString n) = toString n :=
  front_eq_self_iff.mpr fun h => absurd (isDigit_of_mem_toString h) (by decide)

/-- A number of up to four digits is read as it was written. -/
theorem parseIndex?_toString (h : n ≤ 9999) : parseIndex? (toString n) = some n := by
  have hlength : (toString n).toList.length ≤ 4 := by
    rw [toList_toString, Nat.length_toDigits_le_iff (by decide) (by decide)]
    omega
  have hdigits : (toString n).toList.all Char.isDigit = true :=
    List.all_eq_true.mpr fun _ => isDigit_of_mem_toString
  have hread : (toString n).toList.foldl (fun n x => 10 * n + (x.toNat - '0'.toNat)) 0 = n := by
    rw [← Nat.ofDigitChars_eq_foldl, toList_toString, Nat.ofDigitChars_ten_toDigits]
  have hshape : (!(toString n).toList.isEmpty && decide ((toString n).toList.length ≤ 4) &&
      (toString n).toList.all Char.isDigit) = true := by
    rw [decide_eq_true hlength, hdigits, Bool.and_true, Bool.and_true, Bool.not_eq_true',
      List.isEmpty_eq_false_iff, toList_toString]
    exact Nat.toDigits_ne_nil
  rw [parseIndex?, if_pos hshape, hread]

/-- A place is looked up among as many supported names as it takes. -/
theorem resolve_place (service : CardService ω κ) (hn : n ≤ 9999)
    (hc : c.text = positionalText driverName [toString n]) : resolve service c =
      scanNames service (n + 1) >>= fun found => Act.ofOption .noSuchDevice found[n]? := by
  have hne : front (toString n) ≠ "" := by
    rw [front_toString]
    exact toString_ne_empty n
  unfold resolve
  rw [hc]
  rcases @decode_front driverName driverName (toString n) [] (by decide) (by decide) hne with
    hone | ⟨second, htwo⟩
  · simp only [hone, front_toString, parseIndex?_toString hn]
  · simp only [htwo, front_toString, parseIndex?_toString hn]

/-! ## What is opened -/

/-- Of all readers this one is opened; nothing is, and there is no such device, for want of one. -/
def Opens (service : CardService ω κ) (c : ConnString) (w : ω) (name? : Option String) : Prop :=
  ((driver service.noted).claim c ⟨w, []⟩).state.notes = name?.toList ∧
    ((driver service.noted).claim c ⟨w, []⟩).result = match name? with
      | some name => service.connected name (service.readers w).state
      | none => .error .noSuchDevice

theorem Opens.unique {name? name?' : Option String} (h : Opens service c w name?)
    (h' : Opens service c w name?') : name? = name?' := by
  have hnotes : name?.toList = name?'.toList := h.1.symm.trans h'.1
  cases name? <;> cases name?' <;> simp_all

/-- **The reader at a place among the supported ones is opened.** -/
theorem claim_place (hnames : (service.readers w).result = .ok names) (hn : n ≤ 9999)
    (hc : c.text = positionalText driverName [toString n]) :
    Opens service c w (names.filter isSupported)[n]? := by
  have hnoted : (service.noted.readers ⟨w, []⟩).result = .ok names := hnames
  have hlisted : (scanNames service.noted (n + 1) : Op (Noted String ω) _).Yields ⟨w, []⟩
      ((names.filter isSupported).take (n + 1)) ⟨(service.readers w).state, []⟩ :=
    yields_scanNames hnoted (n + 1)
  have hplace : ((names.filter isSupported).take (n + 1))[n]? = (names.filter isSupported)[n]? :=
    List.getElem?_take_of_lt (Nat.lt_succ_self n)
  -- the place counts supported names, whether or not the scan reports them
  cases hfound : (names.filter isSupported)[n]? with
  | none =>
      have hmissing : (resolve service.noted c).Fails ⟨w, []⟩ .noSuchDevice
          ⟨(service.readers w).state, []⟩ := by
        rw [resolve_place _ hn hc]
        refine Act.fails_bind.mpr (.inr ⟨_, _, hlisted, ?_⟩)
        rw [hplace, hfound]
        exact ⟨rfl, rfl⟩
      have hfails : (claim service.noted c).Fails ⟨w, []⟩ .noSuchDevice
          ⟨(service.readers w).state, []⟩ := by
        unfold claim
        exact hmissing.bind _
      exact ⟨congrArg Noted.notes hfails.2, hfails.1⟩
  | some name =>
      have hresolved : (resolve service.noted c).Yields ⟨w, []⟩ name
          ⟨(service.readers w).state, []⟩ := by
        rw [resolve_place _ hn hc]
        refine Act.yields_bind.mpr ⟨_, _, hlisted, ?_⟩
        rw [hplace, hfound]
        exact ⟨rfl, rfl⟩
      exact claim_of_resolve hresolved

/-! ## What is reported -/

/-- A scan for any number of readers reports all the supported names that fit. -/
theorem reports_map_text (hnames : (service.readers w).result = .ok names) {max : Nat}
    (hmax : names.length ≤ max) :
    ((driver service).reports max w).map text =
      ((names.filter isSupported).filter (Fits ·)).map fun name =>
        positionalText driverName [name] := by
  obtain ⟨found, hfound, htexts⟩ := yields_scan hnames max
  have hall : (names.filter isSupported).take max = names.filter isSupported :=
    List.take_of_length_le ((List.length_filter_le _ _).trans hmax)
  rw [((driver service).yields_reports max w).unique hfound |>.1, htexts, hall]

/-- Different names have different texts. -/
theorem positionalText_injective :
    Function.Injective fun name => positionalText driverName [name] := by
  intro name name' h
  simpa [← String.toList_inj, toList_positionalText] using h

/-- **The reader reported at a place is the one that is opened exactly if the names that do not
fit leave that place alone.**  A scan that is not bounded leaves them out and opening by a place
counts them. -/
theorem opens_reported_iff {max : Nat} (hscan : (service.readers w).result = .ok names)
    (hopen : (service.readers w').result = .ok names) (hmax : names.length ≤ max) (hn : n ≤ 9999)
    (hc : c.text = "pcsc" ++ ":" ++ toString n) :
    (∃ name?, (((driver service).reports max w)[n]?).map text =
        name?.map (fun name => "pcsc" ++ ":" ++ name) ∧ Opens service c w' name?) ↔
      (names.filter isSupported)[n]? = ((names.filter isSupported).filter (Fits ·))[n]? := by
  have hopened := claim_place hopen hn hc
  have hreported : (((driver service).reports max w)[n]?).map text =
      (((names.filter isSupported).filter (Fits ·))[n]?).map fun name =>
        positionalText driverName [name] := by
    rw [← List.getElem?_map, ← List.getElem?_map, reports_map_text hscan hmax]
  refine ⟨?_, fun h => ⟨_, hreported, h ▸ hopened⟩⟩
  rintro ⟨name?, htext, hname⟩
  have hsame := Option.map_injective positionalText_injective (hreported.symm.trans htext)
  exact (hopened.unique hname).trans hsame.symm

/-- With names that all fit, the second of them is opened by its place. -/
theorem opens_reported_second :
    let service : CardService Unit Unit :=
      { readers := pure ["ACS AET65", "SCM SCL3711", "ACS ACR122U"]
        connect := fun _ _ _ => pure () }
    let c : ConnString := ⟨"pcsc:1", by decide, by decide⟩
    ∃ name?, (((driver service).reports 4 ())[1]?).map text =
      name?.map (fun name => "pcsc" ++ ":" ++ name) ∧ Opens service c () name? := by
  intro service c
  have hnames : (service.readers ()).result =
    .ok ["ACS AET65", "SCM SCL3711", "ACS ACR122U"] := rfl
  exact (opens_reported_iff hnames hnames (by decide) (by decide) (by decide)).mpr
    (by decide +kernel)

/-- A name that does not fit shifts the places behind it: a scan reports `ACS ACR122U` alone, and
`pcsc:0` opens the reader in front of it. -/
theorem opens_not_reported :
    ¬ ∀ (service : CardService Unit Unit) (max n : Nat) (c : ConnString),
      n ≤ 9999 → c.text = "pcsc" ++ ":" ++ toString n →
        ∀ names, (service.readers ()).result = .ok names → names.length ≤ max →
          ∃ name?, (((driver service).reports max ())[n]?).map text =
            name?.map (fun name => "pcsc" ++ ":" ++ name) ∧ Opens service c () name? := by
  intro h
  let names := ["ACS ACR122 é", "ACS ACR122U"]
  let service : CardService Unit Unit :=
    { readers := pure names, connect := fun _ _ _ => pure () }
  let c : ConnString := ⟨"pcsc:0", by decide, by decide⟩
  obtain ⟨name?, hreported, hopened, -⟩ :=
    h service 2 0 c (by decide) (by decide) names rfl (by decide)
  have hfirst : ((driver service).reports 2 ()).map text = ["pcsc:ACS ACR122U"] := by
    decide +kernel
  have hasked : ((driver service.noted).claim c ⟨(), []⟩).state.notes = ["ACS ACR122 é"] := by
    decide +kernel
  rw [← List.getElem?_map, hfirst] at hreported
  rw [hasked] at hopened
  cases name? with
  | none => cases hopened
  | some name =>
      obtain rfl : "ACS ACR122 é" = name := List.singleton_inj.mp hopened
      exact absurd (Option.some.inj hreported) (by decide)

end NearField.Pcsc
