import NearField.Context
import NearField.Proofs.Pcsc.Place

/-!
# Scans for some readers at most

A scan keeps as many supported names as were asked for and then leaves out those that do not fit a
connection string, so a name that does not fit takes up room.  A scan for some readers at most
therefore reports the first of those that a scan without a limit reports exactly if there is no
such name among the ones that are kept, or nothing to report behind them (`Unhindered`).

A context that opens a reader without being told which lists one and opens that one
(`opensFirst_iff`).  If the driver of the card service is alone in it, there is one to open whenever
a listing without a limit finds any exactly if the first supported name fits or no name does
(`reports_take_iff`).
-/

namespace NearField

open ConnString

/-! ## Alone in a context -/

namespace Context

variable {ω δ : Type} {ctx : Context ω δ} {d : Driver ω δ} {c : ConnString} {w w' : ω}

/-- There is one driver, and no reader is declared. -/
structure Alone (ctx : Context ω δ) (d : Driver ω δ) : Prop where
  drivers : ctx.registry.drivers = [d]
  userDevices : ctx.userDevices = []

/-- A driver that does not intrude may scan whatever the policy, and is given the whole room. -/
theorem yields_scanned_alone (hscan : d.scanType = .notIntrusive) (room : Nat) (w : ω) :
    (scanned ctx (room + 1) [d]).Yields w ((d.reports (room + 1) w).take (room + 1))
      (d.scan (room + 1) w).state := by
  have hmay : (!ctx.mayScan d) = false := by simp [mayScan, hscan]
  unfold scanned
  rw [hmay, if_neg Bool.false_ne_true]
  refine Act.yields_bind.mpr ⟨_, _, d.yields_reports (room + 1) w, ?_⟩
  refine Act.yields_bind.mpr ⟨(), _, Act.yields_log.mpr rfl, ?_⟩
  refine Act.yields_bind.mpr ⟨[], (d.scan (room + 1) w).state, ?_, ?_⟩
  · cases room + 1 - ((d.reports (room + 1) w).take (room + 1)).length <;> exact ⟨rfl, rfl⟩
  · rw [List.append_nil]
    exact ⟨rfl, rfl⟩

variable [Reader (ω × δ)]

/-- The connection strings that a listing gives. -/
def lists (ctx : Context ω δ) (max : Nat) (w : ω) : List ConnString :=
  match (list ctx max w).result with
  | .ok found => found

theorem yields_lists (ctx : Context ω δ) (max : Nat) (w : ω) :
    (list ctx max).Yields w (ctx.lists max w) (list ctx max w).state := by
  rw [lists]
  split
  exact ⟨‹_›, rfl⟩

/-- A driver that is alone is asked for everything. -/
theorem lists_alone (halone : ctx.Alone d) (hauto : ctx.autoscan = true)
    (hscan : d.scanType = .notIntrusive) (room : Nat) (w : ω) :
    ctx.lists (room + 1) w = (d.reports (room + 1) w).take (room + 1) := by
  have hlist : (list ctx (room + 1)).Yields w ((d.reports (room + 1) w).take (room + 1))
      (d.scan (room + 1) w).state := by
    have hroom : ¬ room + 1 ≤ ([] : List ConnString).length := Nat.not_succ_le_zero room
    have hdoes : ¬ (!ctx.autoscan) = true := by simp [hauto]
    unfold list
    rw [halone.userDevices, halone.drivers]
    refine Act.yields_bind.mpr ⟨[], w, ⟨rfl, rfl⟩, ?_⟩
    rw [if_neg hroom, if_neg hdoes]
    exact Act.yields_bind.mpr ⟨_, _, yields_scanned_alone hscan room w, rfl, rfl⟩
  exact ((yields_lists ctx (room + 1) w).unique hlist).1

theorem lists_zero (halone : ctx.Alone d) (w : ω) : ctx.lists 0 w = [] := by
  have hlist : (list ctx 0).Yields w [] w := by
    unfold list
    rw [halone.userDevices]
    exact Act.yields_bind.mpr ⟨[], w, ⟨rfl, rfl⟩, rfl, rfl⟩
  exact ((yields_lists ctx 0 w).unique hlist).1

/-- A context that must not scan, and has no readers declared, lists none. -/
theorem lists_of_not_autoscan (halone : ctx.Alone d) (hauto : ctx.autoscan = false) (max : Nat)
    (w : ω) : ctx.lists max w = [] := by
  have hlist : (list ctx max w).result = .ok [] := by
    have hdeclared : (declared ctx max []).Yields w [] w := by cases max <;> exact ⟨rfl, rfl⟩
    have hstays : (!ctx.autoscan) = true := by simp [hauto]
    unfold list
    rw [halone.userDevices, (hdeclared.bind _).1, hstays, if_pos rfl]
    split <;> rfl
  exact ((yields_lists ctx max w).unique ⟨hlist, rfl⟩).1

/-- Opening without a connection string has this one to open: it is the one that is listed for one
reader, and opening ends as opening by it does. -/
def OpensFirst (ctx : Context ω δ) (w : ω) (c : ConnString) : Prop :=
  ∃ w', (list ctx 1).Yields w [c] w' ∧
    (openReader ctx none w).result = (openNamed ctx c w').result ∧
      (openReader ctx none w).state = (openNamed ctx c w').state

/-- What a listing for one reader gives is opened. -/
theorem opensFirst_iff : ctx.OpensFirst w c ↔ ctx.lists 1 w = [c] := by
  constructor
  · rintro ⟨w', hlist, -, -⟩
    exact ((yields_lists ctx 1 w).unique hlist).1
  · intro h
    have hlist := yields_lists ctx 1 w
    rw [h] at hlist
    have hasked : ((list ctx 1).attempt : Op ω _).Yields w (.ok [c]) (list ctx 1 w).state :=
      ⟨congrArg Except.ok hlist.1, rfl⟩
    exact ⟨_, hlist, hasked.bind _⟩

end Context

/-! ## Names that take up room -/

namespace Pcsc

/-- What passes a test among the first elements is the first part of what passes it, exactly if
they all do or none behind them does. -/
theorem filter_take_eq_take_filter_iff {α : Type} (p : α → Bool) (l : List α) (n : Nat) :
    (l.take n).filter p = (l.filter p).take n ↔
      (∀ x ∈ l.take n, p x = true) ∨ ∀ x ∈ l.drop n, ¬ p x = true := by
  have hsplit : l.filter p = (l.take n).filter p ++ (l.drop n).filter p := by
    rw [← List.filter_append, List.take_append_drop]
  have hfront : ((l.take n).filter p).length ≤ n :=
    (List.length_filter_le _ _).trans (List.length_take_le n l)
  rw [hsplit, List.take_append, List.take_of_length_le hfront, List.self_eq_append_right,
    List.take_eq_nil_iff, List.filter_eq_nil_iff, Nat.sub_eq_zero_iff_le]
  refine or_congr_left' fun hbehind => ?_
  -- something behind the first elements passes the test, so there are as many as were asked for
  rw [← List.length_filter_eq_length_iff]
  have hfull : (l.take n).length = n := by
    rw [List.length_take, Nat.min_eq_left]
    by_contra hshort
    exact hbehind (by simp [List.drop_of_length_le (Nat.le_of_not_le hshort)])
  omega

variable {ω δ κ : Type} {service : CardService ω κ} {names : List String} {all max : Nat} {w : ω}

/-- A scan for so many readers is not hindered by names that do not fit: there is none among those
that it keeps, or none that fits behind them. -/
def Unhindered (max : Nat) (names : List String) : Prop :=
  (∀ name ∈ (names.filter isSupported).take max, Fits name) ∨
    ∀ name ∈ (names.filter isSupported).drop max, ¬ Fits name

instance (max : Nat) (names : List String) : Decidable (Unhindered max names) :=
  inferInstanceAs (Decidable (_ ∨ _))

/-- No scan is hindered if all the supported names fit. -/
theorem unhindered_of_forall_fits (h : ∀ name ∈ names.filter isSupported, Fits name) (max : Nat) :
    Unhindered max names :=
  .inl fun name hname => h name (List.mem_of_mem_take hname)

/-- Of the supported names, as many as were asked for, those that fit are reported. -/
theorem reports_map_text_take (hnames : (service.readers w).result = .ok names) (max : Nat) :
    ((driver service).reports max w).map text =
      (((names.filter isSupported).take max).filter (Fits ·)).map fun name =>
        positionalText driverName [name] := by
  obtain ⟨found, hfound, htexts⟩ := yields_scan hnames max
  rw [((driver service).yields_reports max w).unique hfound |>.1, htexts]

theorem reports_eq_take_iff (hnames : (service.readers w).result = .ok names)
    (hall : names.length ≤ all) (max : Nat) :
    (driver service).reports max w = ((driver service).reports all w).take max ↔
      Unhindered max names := by
  have htext : Function.Injective text := fun _ _ => text_inj.mp
  rw [← (List.map_injective_iff.mpr htext).eq_iff, List.map_take, reports_map_text hnames hall,
    reports_map_text_take hnames, ← List.map_take,
    (List.map_injective_iff.mpr positionalText_injective).eq_iff, filter_take_eq_take_filter_iff,
    Unhindered]
  simp only [decide_eq_true_eq]

theorem reports_eq_nil_iff (hnames : (service.readers w).result = .ok names) (max : Nat) :
    (driver service).reports max w = [] ↔
      ∀ name ∈ (names.filter isSupported).take max, ¬ Fits name := by
  rw [← List.map_eq_nil_iff, reports_map_text_take hnames, List.map_eq_nil_iff,
    List.filter_eq_nil_iff]
  simp only [decide_eq_true_eq]

/-- Something is reported of one name if anything is reported at all, unless the name does not fit
and another one does. -/
theorem reports_one_ne_nil_iff (hnames : (service.readers w).result = .ok names)
    (hall : names.length ≤ all) :
    ((driver service).reports all w ≠ [] → (driver service).reports 1 w ≠ []) ↔
      Unhindered 1 names := by
  have hwhole : (names.filter isSupported).take all = names.filter isSupported :=
    List.take_of_length_le ((List.length_filter_le _ _).trans hall)
  rw [not_imp_not, reports_eq_nil_iff hnames, reports_eq_nil_iff hnames, hwhole, Unhindered]
  cases names.filter isSupported with
  | nil => simp
  | cons name names => by_cases h : Fits name <;> simp [h]

theorem length_reports_le (hnames : (service.readers w).result = .ok names) (max : Nat) :
    ((driver service).reports max w).length ≤ max := by
  rw [← List.length_map text, reports_map_text_take hnames, List.length_map]
  exact (List.length_filter_le _ _).trans (List.length_take_le max _)

variable [Reader (ω × δ)] {ctx : Context ω δ} {seenAs : Connection κ → δ}

/-- With this driver alone, a listing gives what the driver reports. -/
theorem lists_eq_reports (hnames : (service.readers w).result = .ok names)
    (halone : ctx.Alone ((driver service).map seenAs)) (hauto : ctx.autoscan = true) (max : Nat) :
    ctx.lists max w = (driver service).reports max w := by
  cases max with
  | zero =>
      rw [Context.lists_zero halone, eq_comm, reports_eq_nil_iff hnames, List.take_zero]
      exact fun _ h => absurd h List.not_mem_nil
  | succ room =>
      rw [Context.lists_alone halone hauto rfl]
      exact List.take_of_length_le (length_reports_le hnames (room + 1))

/-- With this driver alone, there is one to open exactly if something is reported of one name. -/
theorem opensFirst_iff_reports (hnames : (service.readers w).result = .ok names)
    (halone : ctx.Alone ((driver service).map seenAs)) (hauto : ctx.autoscan = true) :
    (∃ c, ctx.OpensFirst w c) ↔ (driver service).reports 1 w ≠ [] := by
  simp only [Context.opensFirst_iff, lists_eq_reports hnames halone hauto]
  rw [← List.length_eq_one_iff, ← List.length_pos_iff]
  have := length_reports_le hnames 1
  omega

/-- **A scan for some readers at most reports the first of all** exactly if it is not hindered by
names that do not fit.  With this driver alone, and no readers declared, opening without a
connection string has one to open whenever a listing of all gives any, exactly if a scan for one
reader is not hindered, or nothing is ever listed because scanning is switched off. -/
theorem reports_take_iff (hnames : (service.readers w).result = .ok names)
    (hall : names.length ≤ all) (halone : ctx.Alone ((driver service).map seenAs)) :
    (∀ max, (driver service).reports max w = ((driver service).reports all w).take max ↔
        Unhindered max names) ∧
      ((ctx.lists all w ≠ [] → ∃ c, ctx.OpensFirst w c) ↔
        ctx.autoscan = false ∨ Unhindered 1 names) := by
  refine ⟨reports_eq_take_iff hnames hall, ?_⟩
  cases hauto : ctx.autoscan with
  | false =>
      have hnone : ctx.lists all w = [] := Context.lists_of_not_autoscan halone hauto all w
      exact iff_of_true (fun hsome => absurd hnone hsome) (.inl rfl)
  | true =>
      rw [lists_eq_reports hnames halone hauto, opensFirst_iff_reports hnames halone hauto,
        reports_one_ne_nil_iff hnames hall, or_iff_right Bool.noConfusion]

/-- With names that all fit, scans report the first of all, and there is one to open. -/
theorem reports_take_fitting :
    let service : CardService Unit Unit :=
      { readers := pure ["ACS AET65", "SCM SCL3711", "ACS ACR122U"]
        connect := fun _ _ _ => pure () }
    letI : Reader (Unit × BareReader) := {}
    let ctx : Context Unit BareReader := { registry := ⟨[(driver service).map fun _ => {}]⟩ }
    (∀ max, (driver service).reports max () = ((driver service).reports 3 ()).take max) ∧
      (ctx.lists 3 () ≠ [] → ∃ c, ctx.OpensFirst () c) := by
  intro service ctx
  let _ : Reader (Unit × BareReader) := {}
  have hnames : (service.readers ()).result =
    .ok ["ACS AET65", "SCM SCL3711", "ACS ACR122U"] := rfl
  have hfits := unhindered_of_forall_fits
    (show ∀ name ∈ ["ACS AET65", "SCM SCL3711", "ACS ACR122U"].filter isSupported, Fits name by
      decide +kernel)
  have halone : ctx.Alone ((driver service).map fun _ => {}) := ⟨rfl, rfl⟩
  obtain ⟨hscan, hopen⟩ := reports_take_iff hnames (Nat.le_refl 3) halone
  exact ⟨fun max => (hscan max).mpr (hfits max), hopen.mpr (.inr (hfits 1))⟩

/-- A name that does not fit hides the one behind it: a scan for one reader reports none, and there
is none to open, though `ACS ACR122U` is reported and listed. -/
theorem reports_hidden :
    letI : Reader (Unit × BareReader) := {}
    let service (names : List String) : CardService Unit Unit :=
      { readers := pure names, connect := fun _ _ _ => pure () }
    let ctx (names : List String) : Context Unit BareReader :=
      { registry := ⟨[(driver (service names)).map fun _ => {}]⟩ }
    (¬ ∀ names all max, names.length ≤ all →
        (driver (service names)).reports max () =
          ((driver (service names)).reports all ()).take max) ∧
      ¬ ∀ names all, names.length ≤ all →
          (ctx names).lists all () ≠ [] → ∃ c, (ctx names).OpensFirst () c := by
  intro service ctx
  let _ : Reader (Unit × BareReader) := {}
  let names := ["ACS ACR122 é", "ACS ACR122U"]
  have hnone : (driver (service names)).reports 1 () = [] := by
    rw [← List.map_eq_nil_iff (f := text)]
    decide +kernel
  have hreported : ((driver (service names)).reports 2 ()).map text = ["pcsc:ACS ACR122U"] := by
    decide +kernel
  have hlisted : ((ctx names).lists 2 ()).map text = ["pcsc:ACS ACR122U"] := by
    decide +kernel
  have hunlisted : (ctx names).lists 1 () = [] := by
    rw [← List.map_eq_nil_iff (f := text)]
    decide +kernel
  constructor
  · intro h
    have hfirst := congrArg (List.map text) (h names 2 1 (by decide))
    rw [hnone, List.map_take, hreported] at hfirst
    cases hfirst
  · intro h
    have hsome : (ctx names).lists 2 () ≠ [] := fun hnil => by simp [hnil] at hlisted
    obtain ⟨c, hc⟩ := h names 2 (by decide) hsome
    rw [Context.opensFirst_iff, hunlisted] at hc
    cases hc

end Pcsc

end NearField
