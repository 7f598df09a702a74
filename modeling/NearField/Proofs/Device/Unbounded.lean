import NearField.Pn53x.Reader
import NearField.Proofs.Device.Bracket
import NearField.Proofs.Device.Call
import NearField.Proofs.Pn53x.Unbounded
import NearField.Simulated.ChipScript

/-!
# Unbounded selection, kept twice

A device keeps track of unbounded selection for the operations that switch it for a time, and the
chip layer behind it keeps its own flag.  A device that was just made has it off, the chip behind
it on.  Each call does one of three things to the two copies (`agrees_run`).  It settles them,
when the chip takes the command of a switch that the device sends; it diverts the chip's copy
alone, when the switch is sent as a number or a poll does not find back; or it keeps both.  So
whether the copies agree after a sequence of calls can be read off its course
(`agrees_iff_course`).
-/

namespace NearField.Device

open Pn53x Simulated

variable {τ α β : Type}

/-- What is kept about unbounded selection: by the device, and by the chip layer. -/
def unbounded (d : Device (Chip τ)) : Bool × Bool := (d.infiniteSelect, d.backend.infiniteSelect)

/-- The device and the chip layer keep the same about unbounded selection. -/
def Agrees (d : Device (Chip τ)) : Prop := d.infiniteSelect = d.backend.infiniteSelect

/-- Agreement is about the two copies alone. -/
theorem agrees_congr {d d' : Device (Chip τ)} (h : unbounded d' = unbounded d) :
    Agrees d' ↔ Agrees d := by
  obtain ⟨hdevice, hchip⟩ := Prod.mk.inj h
  rw [Agrees, Agrees, hdevice, hchip]

/-- A device that was just made around a chip, with what the chip was found to be. -/
def fresh (name : String) (connString : ConnString) (driver : String) (l : τ)
    (kind : ChipKind) (firmware? : Option String) (timerCorrection : UInt16) :
    Device (Chip τ) where
  name := name
  connString := connString
  driver := driver
  backend := { link := l, kind, firmware?, timerCorrection }

/-! ## Operations that keep both copies -/

/-- What keeps the chip's copy keeps both, as the device's changes only in its own switch. -/
theorem keeps_dispatch {a : Op (Chip τ) α} (h : Act.Keeps Chip.infiniteSelect a) :
    Act.Keeps unbounded (dispatch a) := by
  intro d
  rw [(dispatch_run a d).2]
  exact congrArg (Prod.mk d.infiniteSelect) (h d.backend)

theorem keeps_dispatch_throw (e : Error) :
    Act.Keeps unbounded (dispatch (throw e) : Op (Device (Chip τ)) α) :=
  keeps_dispatch (Act.keeps_throw e)

variable [ChipLink τ]

/-- An operation that takes either copy for granted keeps it. -/
theorem keeps_dispatch_of_simulates {a : Op (Chip τ) α}
    (h : ∀ flag, Interchange (Chip.Known flag) (fun _ => True) (Eq (α := τ)) →
      Act.Simulates (Paired (Chip.Known flag) Eq) a a) : Act.Keeps unbounded (dispatch a) :=
  keeps_dispatch (Chip.keeps_of_simulates h)

/-- Every other switch. -/
theorem keeps_setBool {p : Property} (hp : p ≠ .infiniteSelect) (enable : Bool) :
    Act.Keeps unbounded (setBool p enable : Op (Device (Chip τ)) Unit) := by
  unfold setBool
  rw [if_neg hp]
  refine .bind (Act.keeps_log _ _ _) fun _ => ?_
  exact .bind (keeps_dispatch (Chip.keeps_setBool hp enable)) fun _ => Act.keeps_pure _

/-- Switches one after the other, none of which is for unbounded selection. -/
theorem keeps_setSwitches {switches : List (Property × Bool)}
    (h : ∀ s ∈ switches, s.1 ≠ .infiniteSelect) :
    Act.Keeps unbounded (setSwitches switches : Op (Device (Chip τ)) Unit) := by
  induction switches with
  | nil => exact Act.keeps_pure _
  | cons s switches ih =>
      refine .bind (keeps_setBool (h s List.mem_cons_self) s.2) fun _ => ?_
      exact ih fun s' hs' => h s' (List.mem_cons_of_mem _ hs')

theorem keeps_families (mode : Mode) :
    Act.Keeps unbounded (families mode : Op (Device (Chip τ)) (List Family)) :=
  keeps_dispatch (.bind Act.keeps_get fun _ => Act.keeps_pure _)

theorem keeps_baudRates (mode : Mode) (f : Family) :
    Act.Keeps unbounded (baudRates mode f : Op (Device (Chip τ)) (List BaudRate)) :=
  keeps_dispatch (Act.keeps_ofExcept _)

/-- A modulation is looked up, and refused if need be, without any switch. -/
theorem keeps_validate (mode : Mode) (m : Modulation) :
    Act.Keeps unbounded (validate mode m : Op (Device (Chip τ)) Unit) := by
  refine .bind (keeps_families mode) fun fs => ?_
  have hrates : Act.Keeps unbounded (do
      if !(← baudRates mode m.family).contains m.baudRate then
        debug ("Unsupported baud rate " ++ m.baudRate.text ++ " for " ++ m.family.text)
        fail .invalidArgument : Op (Device (Chip τ)) Unit) := by
    refine .bind (keeps_baudRates mode m.family) fun rs => .ite ?_ (Act.keeps_pure _)
    exact .bind (Act.keeps_log _ _ _) fun _ => keeps_dispatch_throw _
  refine .ite (.bind (Act.keeps_log _ _ _) fun _ => ?_) hrates
  exact .bind (keeps_dispatch_throw _) fun _ => hrates

/-- A selection at the device. -/
theorem keeps_selectPassive (m : Modulation) (data : Bytes) :
    Act.Keeps unbounded (selectPassive m data : Op (Device (Chip τ)) (Option Target)) :=
  .bind (keeps_validate .initiator m) fun _ =>
    keeps_dispatch_of_simulates fun _ h => Chip.simulates_selectPassive h m _

theorem keeps_deselect : Act.Keeps unbounded (deselect : Op (Device (Chip τ)) Unit) :=
  keeps_dispatch_of_simulates fun _ h => Chip.simulates_deselect h

/-- The loop of a listing has no switch in it; those are around it. -/
theorem keeps_collect (m : Modulation) (n : Nat) (found : List Target) :
    Act.Keeps unbounded (collect m n found :
      Op (Device (Chip τ)) (List Target × Option Error)) := by
  induction n generalizing found with
  | zero => exact Act.keeps_pure _
  | succ n ih =>
      refine .bind (keeps_selectPassive m []).attempt fun answer => ?_
      split
      · exact Act.keeps_pure _
      · exact Act.keeps_pure _
      · refine .ite (Act.keeps_pure _) (.ite (Act.keeps_pure _) ?_)
        refine .bind keeps_deselect.attempt fun left => ?_
        split
        · exact .bind (Act.keeps_log _ _ _) fun _ => ih _
        · exact ih _

/-- A selection for data exchange. -/
theorem keeps_selectDep (mode : DepMode) (rate : BaudRate) (initiator : Option DepInfo)
    (t : Timeout) : Act.Keeps unbounded (selectDep mode rate initiator t :
      Op (Device (Chip τ)) (Option Target)) :=
  keeps_dispatch_of_simulates fun _ h => Chip.simulates_selectDep h mode rate initiator trivial

/-- What waits again while there is time left keeps what it keeps each time. -/
theorem keeps_again {again : Option Nat → Op (Device (Chip τ)) (Option Target)}
    (hagain : ∀ left, Act.Keeps unbounded (again left)) (left : Option Nat)
    (d : Device (Chip τ)) : Act.Keeps unbounded (do
      let passed := Nat.max 1 (Reader.clock (← get).backend - Reader.clock d.backend)
      match left.map (· - passed) with
      | some 0 => return none
      | left => again left) := by
  refine .bind Act.keeps_get fun d' => ?_
  dsimp only
  split
  · exact Act.keeps_pure _
  · exact hagain _

/-- The loop of a poll for a peer has no switch in it either. -/
theorem keeps_awaitPeer (mode : DepMode) (rate : BaudRate) (initiator : Option DepInfo) (n : Nat)
    (left : Option Nat) : Act.Keeps unbounded (awaitPeer mode rate initiator n left :
      Op (Device (Chip τ)) (Option Target)) := by
  induction n generalizing left with
  | zero => exact Act.keeps_pure _
  | succ n ih =>
      refine .bind Act.keeps_get fun d => ?_
      refine .bind (keeps_selectDep mode rate initiator peerPeriod).attempt fun answer => ?_
      split
      · exact Act.keeps_pure _
      · exact keeps_again ih left d
      · exact keeps_again ih left d
      · exact Act.keeps_throw _

/-- The switches of a target do not include unbounded selection. -/
theorem keeps_targetInit (capacity : Nat) (t : Timeout) :
    Act.Keeps (fun s => unbounded s.2)
      (targetInit capacity t : Op (Target × Device (Chip τ)) Bytes) := by
  have hswitches : Act.Keeps unbounded
      (setSwitches targetSwitches : Op (Device (Chip τ)) Unit) :=
    keeps_setSwitches (by decide)
  refine .bind (fun s => hswitches s.2) fun _ => .bind (fun s => ?_) fun r => ?_
  · have hchip := Chip.keeps_targetInit capacity t (s.1, s.2.backend)
    exact congrArg (Prod.mk s.2.infiniteSelect) hchip
  · exact .bind (Act.keeps_modify fun _ => rfl) fun _ => Act.keeps_ofExcept _

/-! ## Operations with a switch -/

/-- Where the chip takes a command that switches unbounded selection, both copies are set. -/
theorem agrees_switch_bind (enable : Bool) {k : Unit → Op (Device (Chip τ)) α}
    (hk : ∀ d, Agrees d → Agrees (k () d).state) (d : Device (Chip τ)) :
    Agrees ((setBool .infiniteSelect enable >>= k) d).state ↔
      Chip.Takes enable d.backend ∨ Agrees d := by
  rcases (setBool .infiniteSelect enable).yields_or_fails d with ⟨_, h⟩ | ⟨e, h⟩
  · obtain ⟨b, hb, hd⟩ := yields_setBool.mp h
    rw [(h.bind k).2]
    refine iff_of_true (hk _ ?_) (.inl ⟨b, hb⟩)
    rw [← hd]
    exact (Chip.infiniteSelect_of_yields hb).symm
  · obtain ⟨b, hb, hd⟩ := fails_setBool.mp h
    have hno : ¬ Chip.Takes enable d.backend := fun ⟨_, hb'⟩ => hb'.not_fails hb
    have hkept : unbounded (setBool .infiniteSelect enable d).state = unbounded d := by
      rw [← hd]
      exact congrArg (Prod.mk d.infiniteSelect) (Chip.infiniteSelect_of_fails hb)
    rw [(h.bind k).2, agrees_congr hkept, or_iff_right hno]

/-- The switch by itself. -/
theorem agrees_setBool (enable : Bool) (d : Device (Chip τ)) :
    Agrees (setBool .infiniteSelect enable d).state ↔
      Chip.Takes enable d.backend ∨ Agrees d := by
  have h := agrees_switch_bind enable (k := fun _ => pure ()) (fun _ hd => hd) d
  rwa [bind_pure_unit] at h

/-- A loop between two switches leaves copies that agree in agreement. -/
theorem agrees_bracket {a : Op (Device (Chip τ)) α} (ha : Act.Keeps unbounded a)
    (otherwise enable : Bool) (k : α → Except Error β) {d : Device (Chip τ)} (hd : Agrees d) :
    Agrees ((do
      let r ← a
      switchBack otherwise enable
      Act.ofExcept (k r) : Op (Device (Chip τ)) β) d).state := by
  have hback (d : Device (Chip τ)) (hd : Agrees d) :
      Agrees (switchBack otherwise enable d).state := by
    unfold switchBack
    cases otherwise with
    | false => exact hd
    | true => exact (agrees_setBool enable d).mpr (.inr hd)
  have hloop : Agrees (a d).state := (agrees_congr (ha d)).mpr hd
  rcases a.yields_or_fails d with ⟨r, h⟩ | ⟨e, h⟩
  · rw [(h.bind _).2]
    refine (agrees_congr (Act.keeps_after (fun _ => Act.keeps_ofExcept _) _)).mpr ?_
    exact hback _ hloop
  · rw [(h.bind _).2]
    exact hloop

/-- A listing for no targets returns before its switch; any other settles the copies where the chip
takes the first one. -/
theorem agrees_listPassive (m : Modulation) (max : Nat) (d : Device (Chip τ)) :
    Agrees (listPassive m max d).state ↔ (max ≠ 0 ∧ Chip.Takes false d.backend) ∨ Agrees d := by
  by_cases hmax : max = 0
  · subst hmax
    simp [listPassive_zero]
  · rw [listPassive_eq hmax, (Act.modify_bind _ _ _).2, (Act.get_bind _ _).2]
    rw [agrees_switch_bind false fun _ hd => agrees_bracket (keeps_collect m max []) _ _ _ hd]
    exact or_congr_left ⟨fun h => ⟨hmax, h⟩, fun h => h.2⟩

/-- A poll for a peer settles the copies where the chip takes the first switch. -/
theorem agrees_pollDep (mode : DepMode) (rate : BaudRate) (initiator : Option DepInfo)
    (t : Timeout) (d : Device (Chip τ)) :
    Agrees (pollDep mode rate initiator t d).state ↔ Chip.Takes true d.backend ∨ Agrees d := by
  rw [pollDep_eq, (Act.get_bind _ _).2]
  refine agrees_switch_bind true (fun _ hd => ?_) d
  exact agrees_bracket (keeps_awaitPeer mode rate initiator _ _).attempt _ _ id hd

/-- Switches one after the other, in two parts. -/
theorem setSwitches_append (ss ts : List (Property × Bool)) :
    (setSwitches (ss ++ ts) : Op (Device (Chip τ)) Unit) = (do
      setSwitches ss
      setSwitches ts) := by
  induction ss with
  | nil => rfl
  | cons s ss ih =>
      rw [List.cons_append, setSwitches, setSwitches, ih, bind_assoc]

/-- The switches that come before unbounded selection when an initiator is prepared. -/
def firstSwitches : List (Property × Bool) := initiatorSwitches.take 2

/-- An initiator that is prepared settles the copies if the chip takes the switch for unbounded
selection and the two before it. -/
theorem agrees_initiatorInit (d : Device (Chip τ)) :
    Agrees (initiatorInit d).state ↔
      (∃ d₁, (setSwitches firstSwitches).Yields d () d₁ ∧ Chip.Takes true d₁.backend) ∨
        Agrees d := by
  have hswitches : (setSwitches initiatorSwitches : Op (Device (Chip τ)) Unit) = (do
      setSwitches firstSwitches
      setBool .infiniteSelect true
      setSwitches (initiatorSwitches.drop 3)) :=
    setSwitches_append firstSwitches ((.infiniteSelect, true) :: initiatorSwitches.drop 3)
  have hfirst : Act.Keeps unbounded (setSwitches firstSwitches : Op (Device (Chip τ)) Unit) :=
    keeps_setSwitches (by decide)
  have hrest : Act.Keeps unbounded (do
      setSwitches (initiatorSwitches.drop 3)
      dispatch Reader.initiatorInit : Op (Device (Chip τ)) Unit) :=
    .bind (keeps_setSwitches (by decide)) fun _ =>
      keeps_dispatch_of_simulates fun _ h => Chip.simulates_initiatorInit h
  rw [initiatorInit, hswitches, bind_assoc]
  simp only [bind_assoc]
  -- the switch is reached only if the chip takes the two before it
  rcases (setSwitches firstSwitches).yields_or_fails d with ⟨_, h⟩ | ⟨e, h⟩
  · rw [(h.bind _).2, agrees_switch_bind true fun d hd => (agrees_congr (hrest d)).mpr hd,
      agrees_congr (hfirst d)]
    refine or_congr_left ⟨fun htakes => ⟨_, h, htakes⟩, ?_⟩
    rintro ⟨d₁, h₁, htakes⟩
    obtain ⟨-, rfl⟩ := h.unique h₁
    exact htakes
  · rw [(h.bind _).2, agrees_congr (hfirst d), or_iff_right]
    rintro ⟨d₁, h₁, -⟩
    exact h₁.not_fails h

/-! ## Operations that reach the chip's copy alone -/

omit [ChipLink τ] in
/-- Where the chip's copy changes alone, agreement turns into its contrary. -/
theorem agrees_dispatch {a : Op (Chip τ) α} {d : Device (Chip τ)} {changes : Prop}
    (h : (a d.backend).state.infiniteSelect ≠ d.backend.infiniteSelect ↔ changes) :
    Agrees (dispatch a d).state ↔ (Agrees d ↔ ¬ changes) := by
  rw [← h, (dispatch_run a d).2]
  unfold Agrees
  cases d.infiniteSelect <;> cases d.backend.infiniteSelect <;>
    cases (a d.backend).state.infiniteSelect <;> decide

/-! ## Calls -/

/-- The call ends with both copies set: a switch for unbounded selection that the device keeps
track of is taken by the chip. -/
def Settles (d : Device (Chip τ)) : Call α → Prop
  | .setBool p enable => p = .infiniteSelect ∧ Chip.Takes enable d.backend
  | .initiatorInit =>
    ∃ d₁, (setSwitches firstSwitches).Yields d () d₁ ∧ Chip.Takes true d₁.backend
  | .listPassive _ max => max ≠ 0 ∧ Chip.Takes false d.backend
  | .pollDep _ _ _ _ => Chip.Takes true d.backend
  | _ => False

/-- The call changes the chip's copy and not that of the device: the switch is sent as a number,
or a poll leaves selection bounded. -/
def Diverts (d : Device (Chip τ)) : Call α → Prop
  | .setInt p value => p = .infiniteSelect ∧
      d.backend.infiniteSelect ≠ decide (value ≠ 0) ∧ Chip.Takes (decide (value ≠ 0)) d.backend
  | .pollTarget ms rounds period => Chip.Abandons ms rounds period d.backend
  | _ => False

/-- The calls that divert the chip's copy are not among those that settle both. -/
theorem Diverts.not_settles {call : Call α} {d : Device (Chip τ)} (h : Diverts d call) :
    ¬ Settles d call := by
  cases call with
  | setInt | pollTarget => exact id
  | _ => exact h.elim

/-- A call that keeps both copies neither settles nor diverts them. -/
theorem agrees_of_quiet {call : Call α} {d : Device (Chip τ)}
    (h : Act.Keeps unbounded (call.run (σ := Chip τ))) (hs : ¬ Settles d call)
    (hd : ¬ Diverts d call) :
    Agrees (call.run d).state ↔ Settles d call ∨ (Agrees d ↔ ¬ Diverts d call) := by
  rw [agrees_congr (h d)]
  simp [hs, hd]

/-- **What a call does to the copies**: they agree afterwards if it settles them, and else if they
agreed before and it does not divert the chip's, or did not and it does. -/
theorem agrees_run (call : Call α) (d : Device (Chip τ)) :
    Agrees (call.run d).state ↔ Settles d call ∨ (Agrees d ↔ ¬ Diverts d call) := by
  -- four calls may settle both copies and two may divert the chip's; the others keep them
  cases call with
  | initiatorInit => exact (agrees_initiatorInit d).trans (by simp [Settles, Diverts])
  | listPassive m max => exact (agrees_listPassive m max d).trans (by simp [Settles, Diverts])
  | pollDep mode rate initiator t =>
      exact (agrees_pollDep mode rate initiator t d).trans (by simp [Settles, Diverts])
  | setBool p enable =>
      by_cases hp : p = .infiniteSelect
      · subst hp
        exact (agrees_setBool enable d).trans (by simp [Settles, Diverts])
      · exact agrees_of_quiet (keeps_setBool hp enable) (fun h => hp h.1) id
  | setInt p value =>
      by_cases hp : p = .infiniteSelect
      · subst hp
        have h := agrees_dispatch (Chip.infiniteSelect_setInt value d.backend)
        exact h.trans (by simp [Settles, Diverts])
      · refine agrees_of_quiet ?_ id fun h => hp h.1
        exact .bind (Act.keeps_log _ _ _) fun _ => keeps_dispatch (Chip.keeps_setInt hp value)
  | pollTarget ms rounds period =>
      have h := agrees_dispatch (Chip.infiniteSelect_pollTarget ms rounds period d.backend)
      exact h.trans (by simp [Settles, Diverts])
  | families mode => exact agrees_of_quiet (keeps_families mode) id id
  | baudRates mode f => exact agrees_of_quiet (keeps_baudRates mode f) id id
  | validate mode m => exact agrees_of_quiet (keeps_validate mode m) id id
  | selectPassive m data => exact agrees_of_quiet (keeps_selectPassive m data) id id
  | selectDep mode rate initiator t =>
      exact agrees_of_quiet (keeps_selectDep mode rate initiator t) id id
  | deselect => exact agrees_of_quiet keeps_deselect id id
  | transceiveBytes tx capacity t =>
      refine agrees_of_quiet (keeps_dispatch_of_simulates fun _ h => ?_) id id
      exact Chip.simulates_transceiveBytes h tx capacity trivial
  | transceiveBits tx capacity =>
      refine agrees_of_quiet (keeps_dispatch_of_simulates fun _ h => ?_) id id
      exact Chip.simulates_transceiveBits h tx capacity
  | transceiveBytesTimed tx capacity =>
      refine agrees_of_quiet (keeps_dispatch_of_simulates fun _ h => ?_) id id
      exact Chip.simulates_transceiveBytesTimed h tx capacity
  | targetIsPresent t =>
      refine agrees_of_quiet (keeps_dispatch_of_simulates fun _ h => ?_) id id
      exact Chip.simulates_targetIsPresent h t
  | targetInit target capacity t =>
      exact agrees_of_quiet (fun d => keeps_targetInit capacity t (target, d)) id id
  | targetSendBytes tx t =>
      refine agrees_of_quiet (keeps_dispatch_of_simulates fun _ h => ?_) id id
      exact Chip.simulates_targetSendBytes h tx trivial
  | targetReceiveBytes capacity t =>
      refine agrees_of_quiet (keeps_dispatch_of_simulates fun _ h => ?_) id id
      exact Chip.simulates_targetReceiveBytes h capacity trivial
  | idle =>
      refine agrees_of_quiet (keeps_dispatch_of_simulates fun _ h => ?_) id id
      exact Chip.simulates_idle h
  | information =>
      exact agrees_of_quiet (keeps_dispatch (.bind Act.keeps_get fun _ => Act.keeps_pure _)) id id
  | abortCommand => exact agrees_of_quiet (keeps_dispatch fun _ => rfl) id id
  | powerDown => exact agrees_of_quiet (keeps_dispatch Chip.keeps_powerDown) id id
  | secureElementInit | transceiveBitsTimed | targetSendBits | targetReceiveBits =>
      exact agrees_of_quiet (keeps_dispatch_throw _) id id

/-- Calls from a device whose copies agree or not, and whether they agree afterwards: a call that
settles them counts whatever came before, and one that diverts the chip's turns it around. -/
inductive Course : Bool → List (Sigma Call) → Device (Chip τ) → Bool → Prop where
  | done {agreed : Bool} {d : Device (Chip τ)} : Course agreed [] d agreed
  | settled {agreed agreed' : Bool} {call : Sigma Call} {calls : List (Sigma Call)}
      {d : Device (Chip τ)} (h : Settles d call.2)
      (rest : Course true calls (call.2.run d).state agreed') :
      Course agreed (call :: calls) d agreed'
  | diverted {agreed agreed' : Bool} {call : Sigma Call} {calls : List (Sigma Call)}
      {d : Device (Chip τ)} (h : Diverts d call.2)
      (rest : Course (!agreed) calls (call.2.run d).state agreed') :
      Course agreed (call :: calls) d agreed'
  | kept {agreed agreed' : Bool} {call : Sigma Call} {calls : List (Sigma Call)}
      {d : Device (Chip τ)} (hs : ¬ Settles d call.2) (hd : ¬ Diverts d call.2)
      (rest : Course agreed calls (call.2.run d).state agreed') :
      Course agreed (call :: calls) d agreed'

/-- Calls have a course. -/
theorem exists_course (agreed : Bool) (calls : List (Sigma Call)) (d : Device (Chip τ)) :
    ∃ agreed', Course agreed calls d agreed' := by
  induction calls generalizing agreed d with
  | nil => exact ⟨agreed, .done⟩
  | cons call calls ih =>
      by_cases hs : Settles d call.2
      · obtain ⟨agreed', h⟩ := ih true (call.2.run d).state
        exact ⟨agreed', .settled hs h⟩
      · by_cases hd : Diverts d call.2
        · obtain ⟨agreed', h⟩ := ih (!agreed) (call.2.run d).state
          exact ⟨agreed', .diverted hd h⟩
        · obtain ⟨agreed', h⟩ := ih agreed (call.2.run d).state
          exact ⟨agreed', .kept hs hd h⟩

/-- A course says whether the copies agree behind it, whatever they did before. -/
theorem agrees_after {agreed agreed' : Bool} {calls : List (Sigma Call)} {d : Device (Chip τ)}
    (h : Course agreed calls d agreed') (hd : Agrees d ↔ agreed = true) :
    Agrees (after calls d) ↔ agreed' = true := by
  -- on the course; each call does to the copies what `agrees_run` says
  induction h with
  | done => exact hd
  | @settled _ _ call _ d h _ ih =>
      exact ih (iff_of_true ((agrees_run call.2 d).mpr (.inl h)) rfl)
  | @diverted agreed _ call _ d h _ ih =>
      refine ih ?_
      rw [agrees_run, or_iff_right h.not_settles, hd]
      cases agreed <;> simp [h]
  -- neither settled nor diverted
  | @kept agreed _ call _ d hs h _ ih =>
      refine ih ?_
      rw [agrees_run, or_iff_right hs, hd]
      simp [h]

/-- **When the copies agree**: those of a device that was just made do not, and so they agree
after calls just if their course leads from disagreement to agreement. -/
theorem agrees_iff_course (name : String) (connString : ConnString) (driver : String) (l : τ)
    (kind : ChipKind) (firmware? : Option String) (timerCorrection : UInt16)
    (calls : List (Sigma Call)) :
    let d := fresh name connString driver l kind firmware? timerCorrection
    Agrees (after calls d) ↔ Course false calls d true := by
  intro d
  have hfresh : Agrees d ↔ false = true := by simp [Agrees, d, fresh]
  refine ⟨fun h => ?_, fun h => (agrees_after h hfresh).mpr rfl⟩
  obtain ⟨agreed, hcourse⟩ := exists_course false calls d
  obtain rfl := (agrees_after hcourse hfresh).mp h
  exact hcourse

instance (d : Device (Chip τ)) : Decidable (Agrees d) :=
  inferInstanceAs (Decidable (d.infiniteSelect = d.backend.infiniteSelect))

/-- The copies of a new device disagree, and so do they after the switch was sent as a number and
after a poll whose last command the chip did not take. -/
theorem agrees_not_always :
    let d := fresh "reader" ⟨"pn53x_usb:1", by decide, by decide⟩ "pn53x_usb"
      ({ replies := [.payload [], .payload [], .payload [0x00], .sendFails .io] } : ChipScript)
      .unknown none 0
    let switched : Sigma Call := ⟨_, .setBool .infiniteSelect true⟩
    let numbered : Sigma Call := ⟨_, .setInt .infiniteSelect 0⟩
    let polled : Sigma Call := ⟨_, .pollTarget [⟨.iso14443a, .kbps106⟩] 1 1⟩
    ¬ Agrees d ∧ Agrees (after [switched] d) ∧ ¬ Agrees (after [switched, numbered] d) ∧
      ¬ Agrees (after [switched, polled] d) := by
  decide

end NearField.Device
