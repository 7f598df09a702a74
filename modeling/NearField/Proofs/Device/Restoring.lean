import NearField.Proofs.Device.Listing

/-!
# Searches that switch back

Listing targets switches unbounded selection off for a time, and waiting for a peer switches it on.
A device remembers how it was asked to select, and its reader how it was last switched; the two
agree as long as the switch is set through the device (`AsAsked`).

Selecting, letting go and meeting a peer leave both as they are (`Undisturbed`), so the loop of a
search ends with the switch as it was set before the loop, however the loop ends.  What follows the
loop sets it back.  If the switch can be set, a search thus leaves the device as it was asked to
select, and its reader in agreement with it; if the switch can not be set a search ends there, and
nothing is selected (`searches_restore`).
-/

namespace NearField.Device
open Simulated

/-! ## What a reader was switched to -/

/-- What is seen of unbounded selection being set. -/
def switch? : Observation → Option Bool
  | .setBool .infiniteSelect enable (.ok _) => some enable
  | _ => none

/-- How unbounded selection was set last. -/
def lastSwitch (seen : List Observation) : Option Bool := (seen.filterMap switch?).getLast?

theorem lastSwitch_append {seen : List Observation} {o : Observation} :
    lastSwitch (seen ++ [o]) = (switch? o).or (lastSwitch seen) := by
  unfold lastSwitch
  cases h : switch? o <;> simp [h]

/-- A device is asked to select as its reader was last switched. -/
def AsAsked {σ : Type} (d : Device (Observed σ)) : Prop :=
  lastSwitch d.backend.seen = some d.infiniteSelect

/-- A reader whose unbounded selection can be set, as long as its state is in `P`.  No call that a
search makes leaves `P`, whatever it is answered. -/
structure Settable {σ : Type} [Reader σ] (P : σ → Prop) : Prop where
  setBool : ∀ s enable, P s → ∃ s', (Reader.setBool .infiniteSelect enable).Yields s () s' ∧ P s'
  families : ∀ s, P s → P (Reader.families .initiator s).state
  baudRates : ∀ s f, P s → P (Reader.baudRates .initiator f s).state
  selectPassive : ∀ s m data, P s → P (Reader.selectPassive m data s).state
  selectDep : ∀ s mode rate initiator t, P s →
    P (Reader.selectDep mode rate initiator t s).state
  deselect : ∀ s, P s → P (Reader.deselect s).state

variable {σ α β : Type} [Reader σ] {P : σ → Prop}

/-! ## Inside the bracket -/

/-- The switch is not touched, and can be set afterwards if it could be before. -/
structure Undisturbed (P : σ → Prop) (d d' : Device (Observed σ)) : Prop where
  settable : P d.backend.reader → P d'.backend.reader
  infiniteSelect : d'.infiniteSelect = d.infiniteSelect
  lastSwitch : lastSwitch d'.backend.seen = lastSwitch d.backend.seen

omit [Reader σ] in
instance : IsPreorder (Device (Observed σ)) (Undisturbed P) where
  refl _ := ⟨id, rfl, rfl⟩
  trans _ _ _ h h' := ⟨h'.settable ∘ h.settable, h'.infiniteSelect.trans h.infiniteSelect,
    h'.lastSwitch.trans h.lastSwitch⟩

/-- No run disturbs the switch. -/
abbrev Undisturbing (P : σ → Prop) (a : Op (Device (Observed σ)) α) : Prop :=
  Act.Leads (Undisturbed P) (fun _ => True) a

omit [Reader σ] in
theorem undisturbing_passing {a : Op σ α} (ha : ∀ s, P s → P (a s).state) :
    Undisturbing P (dispatch (Observed.passing a)) := by
  intro d
  rw [(dispatch_run _ d).2]
  exact ⟨⟨ha _, rfl, rfl⟩, fun _ _ => trivial⟩

omit [Reader σ] in
/-- A call that is seen does not disturb the switch if it does not set it. -/
theorem undisturbing_noting {note : Except Error α → Observation} {a : Op σ α}
    (hnote : ∀ r, switch? (note r) = none) (ha : ∀ s, P s → P (a s).state) :
    Undisturbing P (dispatch (Observed.noting note a)) := by
  intro d
  rw [(dispatch_run _ d).2, (Observed.noting_run _ _ _).2]
  refine ⟨⟨ha _, rfl, ?_⟩, fun _ _ => trivial⟩
  rw [lastSwitch_append, hnote]
  rfl

omit [Reader σ] in
theorem undisturbing_fail (e : Error) :
    Undisturbing P (fail e : Op (Device (Observed σ)) α) := by
  intro d
  rw [fail, (dispatch_run _ d).2]
  exact ⟨⟨id, rfl, rfl⟩, fun _ _ => trivial⟩

theorem undisturbing_validate (hP : Settable P) (m : Modulation) :
    Undisturbing P (validate .initiator m : Op (Device (Observed σ)) Unit) := by
  have hrates : Undisturbing P (do
      if !(← baudRates .initiator m.family).contains m.baudRate then
        debug ("Unsupported baud rate " ++ m.baudRate.text ++ " for " ++ m.family.text)
        fail .invalidArgument : Op (Device (Observed σ)) Unit) := by
    refine (undisturbing_passing fun s => hP.baudRates s _).bind fun rs => ?_
    refine .ite ((Act.leads_log _ _ _).bind fun _ => undisturbing_fail _) (Act.leads_pure _)
  refine (undisturbing_passing hP.families).bind fun fs => .ite ?_ hrates
  exact (Act.leads_log _ _ _).bind fun _ => (undisturbing_fail _).bind fun _ => hrates

theorem undisturbing_selectPassive (hP : Settable P) (m : Modulation) :
    Undisturbing P (selectPassive m [] : Op (Device (Observed σ)) (Option Target)) :=
  (undisturbing_validate hP m).bind fun _ =>
    undisturbing_noting (fun _ => rfl) fun s => hP.selectPassive s m _

/-- **A listing does not disturb the switch**, whatever is found and let go. -/
theorem undisturbing_collect (hP : Settable P) (m : Modulation) (n : Nat) (found : List Target) :
    Undisturbing P (collect m n found : Op (Device (Observed σ)) _) := by
  intro d
  obtain ⟨r, d', hcollect, hsearch⟩ := search_collect m n found d
  refine ⟨?_, fun _ _ => trivial⟩
  rw [hcollect.2]
  exact hsearch.leads (fun d => (undisturbing_selectPassive hP m d).1) fun d =>
    (undisturbing_noting (fun _ => rfl) hP.deselect d).1

/-- **Nor does waiting for a peer**, however often it is tried. -/
theorem undisturbing_awaitPeer (hP : Settable P) (mode : DepMode) (rate : BaudRate)
    (initiator : Option DepInfo) (n : Nat) (left : Option Nat) :
    Undisturbing P
      (awaitPeer mode rate initiator n left : Op (Device (Observed σ)) (Option Target)) := by
  intro d
  refine ⟨(wait_awaitPeer mode rate initiator n left d).leads fun d => ?_, fun _ _ => trivial⟩
  exact (undisturbing_passing (fun s => hP.selectDep s mode rate initiator peerPeriod) d).1

/-! ## Around the loop -/

/-- Setting the switch is remembered and seen. -/
theorem setBool_switched (hP : Settable P) {d : Device (Observed σ)} (hd : P d.backend.reader)
    (enable : Bool) : ∃ d', (setBool .infiniteSelect enable).Yields d () d' ∧
      P d'.backend.reader ∧ d'.infiniteSelect = enable ∧
      lastSwitch d'.backend.seen = some enable := by
  obtain ⟨s, hs, hPs⟩ := hP.setBool _ enable hd
  refine ⟨_, setBool_observed hs, hPs, rfl, ?_⟩
  rw [lastSwitch_append]
  rfl

/-- **A loop that does not disturb the switch can be bracketed**: the device is asked to select as
before, and its reader agrees. -/
theorem bracketed_restores (hP : Settable P) {loop : Op (Device (Observed σ)) α}
    (hloop : Undisturbing P loop) (hends : ∀ d, ∃ r d', loop.Yields d r d') (enable : Bool)
    (amounts : α → Except Error β) {d : Device (Observed σ)} (hd : P d.backend.reader) :
    let d' := (bracketed enable loop amounts d).state
    d'.infiniteSelect = d.infiniteSelect ∧ AsAsked d' := by
  obtain ⟨d₁, hset, hd₁, hflag₁, hlast₁⟩ := setBool_switched hP hd enable
  obtain ⟨r, d₂, hrun⟩ := hends d₁
  have hquiet : Undisturbed P d₁ d₂ := hrun.2 ▸ (hloop d₁).1
  have hflag₂ : d₂.infiniteSelect = enable := hquiet.infiniteSelect.trans hflag₁
  have hlast₂ : lastSwitch d₂.backend.seen = some enable := hquiet.lastSwitch.trans hlast₁
  -- the switch back is left out if the switch stood right before the loop
  obtain ⟨d₃, hback, hflag₃, hagrees⟩ : ∃ d₃,
      (switchBack (d.infiniteSelect != enable) (!enable)).Yields d₂ () d₃ ∧
        d₃.infiniteSelect = d.infiniteSelect ∧ AsAsked d₃ := by
    by_cases hsame : d.infiniteSelect = enable
    · refine ⟨d₂, ?_, hflag₂.trans hsame.symm, hlast₂.trans (congrArg some hflag₂.symm)⟩
      rw [switchBack, if_neg (by simp [hsame])]
      exact Act.yields_pure.mpr ⟨rfl, rfl⟩
    · obtain ⟨d₃, hset, -, hflag₃, hlast₃⟩ := setBool_switched hP (hquiet.settable hd₁) (!enable)
      have hother : (!enable) = d.infiniteSelect := by
        cases h : d.infiniteSelect <;> cases enable <;> simp_all
      refine ⟨d₃, ?_, hflag₃.trans hother, hlast₃.trans (congrArg some hflag₃.symm)⟩
      rw [switchBack, if_pos (by simpa using hsame)]
      exact hset
  have hstate : (bracketed enable loop amounts d).state = d₃ := by
    rw [bracketed, (Act.get_bind _ _).2, (hset.bind _).2, (hrun.bind _).2, (hback.bind _).2,
      Act.ofExcept_apply]
  intro d'
  unfold d'
  rw [hstate]
  exact ⟨hflag₃, hagrees⟩

/-- A bracket that can not be opened ends there. -/
theorem bracketed_refused {loop : Op (Device (Observed σ)) α} {amounts : α → Except Error β}
    {enable : Bool} {d : Device (Observed σ)} {e : Error} {s : σ}
    (h : (Reader.setBool .infiniteSelect enable).Fails d.backend.reader e s) :
    (bracketed enable loop amounts).Fails d e { d with
      backend := ⟨s, d.backend.seen ++ [.setBool .infiniteSelect enable (.error e)]⟩
      lastError? := some e } := by
  have hset : (Reader.setBool .infiniteSelect enable).Fails d.backend e
      ⟨s, d.backend.seen ++ [.setBool .infiniteSelect enable (.error e)]⟩ := by
    rw [Act.Fails, (Observed.setBool_run _ _ _).1, (Observed.setBool_run _ _ _).2, h.1, h.2]
    exact ⟨rfl, rfl⟩
  rw [Act.Fails, bracketed, (Act.get_bind _ _).1, (Act.get_bind _ _).2]
  exact (fails_setBool.mpr ⟨_, hset, rfl⟩).bind _

/-! ## Searches -/

/-- A call leaves the device as it was asked to select, and its reader in agreement with it. -/
structure Restores (call : Op (Device (Observed σ)) α) (d : Device (Observed σ)) : Prop where
  asked : (call d).state.infiniteSelect = d.infiniteSelect
  agrees : AsAsked d → AsAsked (call d).state

/-- A call ends with the failure to set the switch, and nothing else is done. -/
def Refuses (enable : Bool) (call : Op (Device (Observed σ)) α) (d : Device (Observed σ)) : Prop :=
  ∀ e s, (Reader.setBool .infiniteSelect enable).Fails d.backend.reader e s →
    call.Fails d e { d with
      backend := ⟨s, d.backend.seen ++ [.setBool .infiniteSelect enable (.error e)]⟩
      lastError? := some e }

theorem listPassive_restores (hP : Settable P) (m : Modulation) (max : Nat)
    {d : Device (Observed σ)} (hd : P d.backend.reader) : Restores (listPassive m max) d := by
  by_cases hmax : max = 0
  · rw [hmax, listPassive_zero]
    exact ⟨rfl, id⟩
  · have hends (d : Device (Observed σ)) : ∃ r d', (collect m max []).Yields d r d' := by
      obtain ⟨r, d', hcollect, -⟩ := search_collect m max [] d
      exact ⟨r, d', hcollect⟩
    obtain ⟨hflag, hagrees⟩ := bracketed_restores hP (undisturbing_collect hP m max []) hends
      false listed (d := d.cleared) hd
    have hstate : (listPassive m max d).state =
        (bracketed false (collect m max []) listed d.cleared).state := by
      rw [listPassive_bracketed hmax, (Act.modify_bind _ _ _).2]
    exact ⟨hstate ▸ hflag, fun _ => hstate ▸ hagrees⟩

theorem pollDep_restores (hP : Settable P) (mode : DepMode) (rate : BaudRate)
    (initiator : Option DepInfo) (t : Timeout) {d : Device (Observed σ)}
    (hd : P d.backend.reader) : Restores (pollDep mode rate initiator t) d := by
  rw [pollDep_bracketed]
  obtain ⟨hflag, hagrees⟩ := bracketed_restores hP
    (undisturbing_awaitPeer hP mode rate initiator endlessAttempts (peerBudget? t)).attempt
    (fun d => ⟨_, _, Act.yields_attempt.mpr ⟨rfl, rfl⟩⟩) true id hd
  exact ⟨hflag, fun _ => hagrees⟩

/-- **Searches switch back.**  If unbounded selection can be set, listing targets and waiting for a
peer leave the device as it was asked to select, and its reader in agreement with it if it was so
before, whatever the reader answers.  If it can not be set they end with that failure, nothing is
selected, and the device is asked to select as it was.  All of this is so without an observer. -/
theorem searches_restore (d : Device (Observed σ)) (m : Modulation) (max : Nat) (mode : DepMode)
    (rate : BaudRate) (initiator : Option DepInfo) (t : Timeout) :
    (∀ P : σ → Prop, Settable P → P d.backend.reader →
      Restores (listPassive m max) d ∧ Restores (pollDep mode rate initiator t) d) ∧
    (max ≠ 0 → Refuses false (listPassive m max) d) ∧
    Refuses true (pollDep mode rate initiator t) d ∧
    AsUnobserved (.listPassive m max) d ∧ AsUnobserved (.pollDep mode rate initiator t) d := by
  refine ⟨fun P hP hd => ⟨listPassive_restores hP m max hd,
    pollDep_restores hP mode rate initiator t hd⟩, fun hmax e s h => ?_, fun e s h => ?_,
    asUnobserved_call _ d, asUnobserved_call _ d⟩
  · rw [listPassive_bracketed hmax, Act.Fails, (Act.modify_bind _ _ _).1, (Act.modify_bind _ _ _).2]
    exact bracketed_refused (d := d.cleared) h
  · rw [pollDep_bracketed]
    exact bracketed_refused h

/-- The switch of a scripted reader can be set if none is broken. -/
theorem settable_scripted : Settable fun r : ScriptedReader => r.failingProperty = none where
  setBool _ enable h := ⟨_, yields_setBool_scripted h .infiniteSelect enable, h⟩
  families _ h := h
  baudRates _ _ h := h
  selectPassive _ _ _ h := by simpa [Reader.selectPassive, ScriptedReader.selectPassive,
    Act.bind_apply] using h
  selectDep _ _ _ _ _ h := by simpa [Reader.selectDep, ScriptedReader.selectDep,
    Act.bind_apply] using h
  deselect _ h := h

/-- A device that was asked to select without end, in agreement with its reader. -/
def unending (reader : ScriptedReader) : Device (Observed ScriptedReader) :=
  { plain ⟨reader, [.setBool .infiniteSelect true (.ok ())]⟩ with infiniteSelect := true }

/-- One device finds two tags and fails for a third, and meets a peer for which it waits; the
switch of another is broken. -/
theorem searches_restore_scripted :
    let found : Device (Observed ScriptedReader) := unending
      { selectResults := [.ok (some (tag .kbps106)), .ok (some (tag .kbps212)),
          .error .rfTransmission]
        depResults := [.error .timeout, .ok (some (tag .kbps106))] }
    let broken := unending { failingProperty := some .infiniteSelect }
    AsAsked (listPassive ⟨.iso14443a, .kbps106⟩ 4 found).state ∧
      AsAsked (pollDep .active .kbps106 none .infinite found).state ∧
      (listPassive ⟨.iso14443a, .kbps106⟩ 4 broken).result = .error .io ∧
      (pollDep .active .kbps106 none .infinite broken).result = .error .io := by
  intro found broken
  obtain ⟨hrestores, -⟩ := searches_restore found ⟨.iso14443a, .kbps106⟩ 4 .active .kbps106 none
    .infinite
  obtain ⟨hlist, hpoll⟩ := hrestores _ settable_scripted rfl
  obtain ⟨-, hlistRefused, hpollRefused, -⟩ := searches_restore broken ⟨.iso14443a, .kbps106⟩ 4
    .active .kbps106 none .infinite
  exact ⟨hlist.agrees rfl, hpoll.agrees rfl, (hlistRefused (by decide) _ _ ⟨rfl, rfl⟩).1,
    (hpollRefused _ _ ⟨rfl, rfl⟩).1⟩

end NearField.Device
