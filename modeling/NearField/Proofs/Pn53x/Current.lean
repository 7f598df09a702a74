import NearField.Proofs.Pn53x.Heeding
import NearField.Proofs.Pn53x.History
import NearField.Proofs.Pn53x.Noting

/-!
# The current target

The target that a chip remembers is the one that was found last, if nothing has happened since by
which it was lost (`current_eq_some_iff`).  A target is found by a selection or a poll that answers
with it (`Operation.found?`).  It is lost when it is let go, when the chip has become idle, when a
status reports that it is gone, and when it does not answer to a check as it should
(`Operation.Loses`).  So each step of a run finds a target, loses the one there was, or leaves it
(`accounted_step`).
-/

namespace NearField.Pn53x.Chip

variable {τ : Type} [ChipLink τ]

/-! ## Targets that are found -/

/-- The target that an operation looks for and answers with. -/
def Operation.found? : Operation → Chip τ → Option Target
  | .call ⟨_, .selectPassive m data⟩, c => (selectPassive m data c).result.toOption.join
  | .call ⟨_, .pollTarget ms pollNr period⟩, c =>
    (pollTarget ms pollNr period c).result.toOption.join
  | .call ⟨_, .selectDep mode rate initiator timeout⟩, c =>
    (selectDep mode rate initiator timeout c).result.toOption.join
  | _, _ => none

/-! ## Targets that are lost -/

/-- What crosses the link in an operation. -/
def Operation.crossed (op : Operation) (c : Chip (Noted Crossing τ)) : List Crossing :=
  (op.run c).crossings.drop c.crossings.length

/-- An operation drops the target: it lets the target go, the chip has become idle, or the target
answers to a check with anything but a first byte of zero. -/
def Operation.Drops : Operation → Chip (Noted Crossing τ) → Prop
  | .call ⟨_, .deselect⟩, _ => True
  | .call ⟨_, .idle⟩, c | .close, c => (idle c).result = .ok ()
  | .call ⟨_, .targetIsPresent t⟩, c =>
    ∃ reply, .reply diagnose (.ok reply) ∈ Operation.crossed (.call ⟨_, .targetIsPresent t⟩) c ∧
      reply.head? ≠ some 0x00
  | _, _ => False

/-- The target is lost in an operation that drops it, and in one in which a status reports that it
is gone. -/
def Operation.Loses (op : Operation) (c : Chip (Noted Crossing τ)) : Prop :=
  op.Drops c ∨ Released (op.crossed c)

variable {op : Operation} {c : Chip (Noted Crossing τ)}

theorem crossed_eq (op : Operation) {crossed : List Crossing}
    (h : (op.run c).crossings = c.crossings ++ crossed) : op.crossed c = crossed := by
  rw [Operation.crossed, h, List.drop_left]

/-! ## One step -/

/-- What a step makes of the target: it finds one, it loses the one there was, or neither. -/
def Accounted (op : Operation) (c : Chip (Noted Crossing τ)) : Prop :=
  match op.found? c with
  | some t => (op.run c).current? = some t
  | none => (op.Loses c → (op.run c).current? = none) ∧
    (¬ op.Loses c → (op.run c).current? = c.current?)

/-- Where the target is not dropped what is heard decides. -/
theorem loses_of_heeds (hdrops : ¬ op.Drops c) (h : Heeds c (op.run c)) :
    (op.Loses c → (op.run c).current? = none) ∧
      (¬ op.Loses c → (op.run c).current? = c.current?) := by
  obtain ⟨crossed, hcrossings, hgone, hstays⟩ := h
  rw [Operation.Loses, crossed_eq op hcrossings, or_iff_right hdrops]
  exact ⟨hgone, hstays⟩

/-- An operation that is not about the target. -/
theorem accounted_of_heedful {α : Type} {call : Call α} (hcall : Heedful τ call.run)
    (hfound : Operation.found? (.call ⟨α, call⟩) c = none)
    (hdrops : ¬ Operation.Drops (.call ⟨α, call⟩) c) : Accounted (.call ⟨α, call⟩) c := by
  rw [Accounted, hfound]
  exact loses_of_heeds hdrops (hcall c).1

/-- An operation that looks for a target. -/
theorem accounted_of_finding {call : Call (Option Target)}
    (hcall : Settled (Option.map some) c (call.run c))
    (hfound : Operation.found? (.call ⟨_, call⟩) c = (call.run c).result.toOption.join)
    (hdrops : ¬ Operation.Drops (.call ⟨_, call⟩) c) : Accounted (.call ⟨_, call⟩) c := by
  rw [Accounted, hfound]
  rw [Settled] at hcall
  cases hresult : (call.run c).result with
  | error e =>
      rw [hresult] at hcall
      exact loses_of_heeds hdrops hcall
  | ok found =>
      rw [hresult] at hcall
      cases found with
      | none => exact loses_of_heeds hdrops hcall
      | some t => exact hcall

/-- A poll that is refused or that the chip makes by itself. -/
theorem settled_pollTarget {ms : List Modulation} {pollNr period : UInt8}
    (h : ¬ Selecting ms pollNr period c) :
    Settled (Option.map some) c (pollTarget ms pollNr period c) := by
  rw [pollTarget_run]
  split
  · rename_i hargs
    rw [if_neg fun hkind => h ⟨hargs, hkind⟩]
    exact finding_autoPoll ms pollNr period c
  · exact refl_of Heeds c

/-- The condition under which a target is asked whether it is still there. -/
def Asks (t? : Option Target) (c : Chip τ) : Prop :=
  ∃ t, c.current? = some t ∧ (t? = none ∨ t? = some t)

theorem targetIsPresent_of_not_asks {t? : Option Target} {c : Chip τ} (h : ¬ Asks t? c) :
    (targetIsPresent t? c).result ≠ .ok () ∧ (targetIsPresent t? c).state = c := by
  rw [targetIsPresent, (Act.get_bind _ _).1, (Act.get_bind _ _).2]
  cases hcurrent : c.current? with
  | none => exact ⟨nofun, rfl⟩
  | some current =>
      have hother : t?.any (· ≠ current) = true := by
        cases t? with
        | none => exact absurd ⟨current, hcurrent, .inl rfl⟩ h
        | some t =>
            refine decide_eq_true fun heq => h ⟨current, hcurrent, .inr ?_⟩
            rw [heq]
      simp only [hother]
      exact ⟨nofun, rfl⟩

/-- What is made of the answer to a check. -/
def judge (reply : Bytes) : Op (Chip τ) Unit := do
  if reply.head? ≠ some 0x00 then
    modify fun c => { c with current? := none }
    throw .targetReleased

omit [ChipLink τ] in
theorem judge_state (reply : Bytes) (c : Chip τ) :
    (judge reply c).state = if reply.head? = some 0x00 then c else { c with current? := none } := by
  unfold judge
  by_cases h : reply.head? = some 0x00
  · rw [if_pos h, if_neg (Decidable.not_not.mpr h)]
    rfl
  · rw [if_neg h, if_pos h]
    rfl

theorem targetIsPresent_of_asks {t? : Option Target} {c : Chip τ} (h : Asks t? c) :
    targetIsPresent t? c = (exchange Command.attentionRequest >>= judge) c := by
  obtain ⟨t, hcurrent, ht⟩ := h
  have hsame : ¬ t?.any (· ≠ t) = true := by
    rcases ht with rfl | rfl
    · exact Bool.false_ne_true
    · simp
  have hget (f : Chip τ → Op (Chip τ) Unit) : (get >>= f) c = f c c := rfl
  rw [targetIsPresent, hget, hcurrent]
  simp only [if_neg hsame]
  rfl

/-- A check in which the target answers with a zero, or not at all, leaves the target to what is
heard. -/
theorem accounted_of_kept {t? : Option Target} {crossed : List Crossing}
    (hheeds : Heeds c (targetIsPresent t? c).state)
    (hcrossings : (targetIsPresent t? c).state.crossings = c.crossings ++ crossed)
    (hzero : ∀ reply, .reply diagnose (.ok reply) ∈ crossed → reply.head? = some 0x00) :
    Accounted (.call ⟨_, .targetIsPresent t?⟩) c := by
  refine loses_of_heeds ?_ hheeds
  rintro ⟨reply, hmem, hhead⟩
  rw [crossed_eq (.call ⟨_, .targetIsPresent t?⟩) hcrossings] at hmem
  exact hhead (hzero reply hmem)

/-- A check that asks the target. -/
theorem accounted_of_asks {t? : Option Target} (hasks : Asks t? c) :
    Accounted (.call ⟨_, .targetIsPresent t?⟩) c := by
  let ask : Op (Chip (Noted Crossing τ)) Bytes := exchange Command.attentionRequest
  have hask : Heedful τ ask := heedful_exchange _
  have hrun : targetIsPresent t? c = (ask >>= judge) c := targetIsPresent_of_asks hasks
  have hkept {crossed : List Crossing} (hstate : (targetIsPresent t? c).state = (ask c).state)
      (hcrossings : (ask c).state.crossings = c.crossings ++ crossed)
      (hzero : ∀ reply, .reply diagnose (.ok reply) ∈ crossed → reply.head? = some 0x00) :
      Accounted (.call ⟨_, .targetIsPresent t?⟩) c :=
    accounted_of_kept (hstate ▸ (hask c).1) (hstate ▸ hcrossings) hzero
  have hfailed {e : Error} (h : (ask c).result = .error e) :
      (targetIsPresent t? c).state = (ask c).state :=
    hrun ▸ (Act.Fails.bind ⟨h, rfl⟩ judge).2
  -- only a reply can tell that the target is gone, and a failed exchange has none
  rcases crossings_transceive diagnose [0x06] c.commandTimeout c with
    ⟨⟨e, he⟩, hcrossings⟩ | ⟨r, hcrossings, hresult⟩
  · refine hkept (hfailed he) hcrossings fun reply hmem => ?_
    cases List.mem_singleton.mp hmem
  · cases r with
    | error e =>
        refine hkept (hfailed hresult) hcrossings fun reply hmem => ?_
        cases (eq_of_mem_exchange hmem).2
    | ok reply =>
        have hanswered : ask.Yields c reply (ask c).state := ⟨hresult, rfl⟩
        have hstate : (targetIsPresent t? c).state = (judge reply (ask c).state).state :=
          hrun ▸ (hanswered.bind judge).2
        rw [judge_state] at hstate
        by_cases hzero : reply.head? = some 0x00
        · rw [if_pos hzero] at hstate
          refine hkept hstate hcrossings fun reply' hmem => ?_
          rw [Except.ok.inj (eq_of_mem_exchange hmem).2]
          exact hzero
        · rw [if_neg hzero] at hstate
          have hdrops : Operation.Drops (.call ⟨_, .targetIsPresent t?⟩) c := by
            refine ⟨reply, ?_, hzero⟩
            rw [crossed_eq (.call ⟨_, .targetIsPresent t?⟩)
              ((congrArg crossings hstate).trans hcrossings)]
            exact List.mem_cons_of_mem _ (List.mem_singleton_self _)
          exact ⟨fun _ => congrArg current? hstate, fun h => absurd (.inl hdrops) h⟩

theorem accounted_targetIsPresent (t? : Option Target) (c : Chip (Noted Crossing τ)) :
    Accounted (.call ⟨_, .targetIsPresent t?⟩) c := by
  by_cases hasks : Asks t? c
  · exact accounted_of_asks hasks
  · obtain ⟨-, hstate⟩ := targetIsPresent_of_not_asks hasks
    have hheeds : Heeds c (targetIsPresent t? c).state := by
      rw [hstate]
      exact refl_of Heeds c
    have hnothing : (targetIsPresent t? c).state.crossings = c.crossings ++ [] := by
      rw [hstate, List.append_nil]
    exact accounted_of_kept hheeds hnothing nofun

/-- An operation that forgets the target if the chip becomes idle in it, and that does nothing else
to the target. -/
theorem accounted_of_idle (hfound : op.found? c = none)
    (hdrops : op.Drops c ↔ (idle c).result = .ok ())
    (hcrossings : (op.run c).crossings = (idle c).state.crossings)
    (hcurrent : (op.run c).current? = (idle c).state.current?) : Accounted op c := by
  have hidle := settles_idle c
  rw [Settled] at hidle
  rw [Accounted, hfound]
  cases hresult : (idle c).result with
  | ok u =>
      rw [hresult] at hidle hdrops
      exact ⟨fun _ => hcurrent.trans hidle, fun h => absurd (.inl (hdrops.mpr rfl)) h⟩
  | error e =>
      rw [hresult] at hidle hdrops
      obtain ⟨crossed, hcrossed, hgone, hstays⟩ := hidle
      have hkept : ¬ op.Drops c := fun h => by cases hdrops.mp h
      refine loses_of_heeds hkept ⟨crossed, hcrossings.trans hcrossed, ?_⟩
      rw [hcurrent]
      exact ⟨hgone, hstays⟩

theorem accounted_call {α : Type} (call : Call α)
    (hsingle : ¬ Operation.Polls (.call ⟨α, call⟩) c) : Accounted (.call ⟨α, call⟩) c := by
  -- three calls may find a target, two let it go, one asks for it; all others leave it alone
  cases call with
  | selectPassive m data => exact accounted_of_finding (finding_selectPassive m data c) rfl id
  | pollTarget ms pollNr period =>
      exact accounted_of_finding (settled_pollTarget hsingle) rfl id
  | selectDep mode rate initiator t =>
      exact accounted_of_finding (finding_selectDep mode rate initiator t c) rfl id
  | deselect =>
      exact ⟨fun _ => deselect_current c, fun h => absurd (.inl trivial) h⟩
  | idle => exact accounted_of_idle rfl Iff.rfl rfl rfl
  | targetIsPresent t? => exact accounted_targetIsPresent t? c
  | transceive cmd t => exact accounted_of_heedful (heedful_transceive cmd t) rfl id
  | identify => exact accounted_of_heedful heedful_identify rfl id
  | setTimerCorrection cycles =>
      exact accounted_of_heedful (heedful_modify fun _ => ⟨rfl, rfl⟩) rfl id
  | initiatorInit => exact accounted_of_heedful heedful_initiatorInit rfl id
  | transceiveBytes tx capacity t =>
      exact accounted_of_heedful (heedful_transceiveBytes tx capacity t) rfl id
  | transceiveBits tx capacity =>
      exact accounted_of_heedful (heedful_transceiveBits tx capacity) rfl id
  | transceiveBytesTimed tx capacity =>
      exact accounted_of_heedful (heedful_transceiveBytesTimed tx capacity) rfl id
  | targetInit target capacity t =>
      refine accounted_of_heedful (fun c => ?_) rfl id
      exact ⟨(heedful_targetInit capacity t (target, c)).1, fun _ _ => trivial⟩
  | targetSendBytes tx t => exact accounted_of_heedful (heedful_targetSendBytes tx t) rfl id
  | targetReceiveBytes capacity t =>
      exact accounted_of_heedful (heedful_targetReceiveBytes capacity t) rfl id
  | setBool p enable => exact accounted_of_heedful (heedful_setBool p enable) rfl id
  | setInt p value => exact accounted_of_heedful (heedful_setInt p value) rfl id
  | describe | families | information =>
      exact accounted_of_heedful (.get_bind fun _ => Act.leads_pure _) rfl id
  | baudRates mode f => exact accounted_of_heedful (heedful_ofExcept _) rfl id
  | secureElementInit | transceiveBitsTimed | targetSendBits | targetReceiveBits =>
      exact accounted_of_heedful (heedful_throw _) rfl id

/-- **What every step makes of the target** is to find one, to lose the one there was, or
neither. -/
theorem accounted_step (hsingle : ¬ op.Polls c) : Accounted op c := by
  cases op with
  | call call => exact accounted_call call.2 hsingle
  | checkCommunication => exact loses_of_heeds id (heedful_checkCommunication c).1
  | powerDown => exact loses_of_heeds id (heedful_powerDown c).1
  | abortCommand =>
      exact loses_of_heeds id (heeds_of_eq rfl rfl)
  | raiseSignal => exact loses_of_heeds id (heeds_of_eq rfl rfl)
  | close =>
      have hclose : (Operation.close.run c) = (idle c).state.mapLink ChipLink.close := close_state c
      exact accounted_of_idle rfl Iff.rfl (hclose ▸ rfl) (hclose ▸ rfl)

/-! ## A whole run -/

/-- The step neither finds a target nor loses one. -/
def Leaves (s : Operation × Chip (Noted Crossing τ)) : Prop :=
  s.1.found? s.2 = none ∧ ¬ s.1.Loses s.2

/-- A step leaves a target that it finds, or the one that there was. -/
theorem Accounted.current_iff (h : Accounted op c) (t : Target) :
    (op.run c).current? = some t ↔
      op.found? c = some t ∨ Leaves (op, c) ∧ c.current? = some t := by
  unfold Accounted at h
  unfold Leaves
  cases hfound : op.found? c with
  | some t' => 
      rw [hfound] at h
      simp [h]
  | none =>
      rw [hfound] at h
      by_cases hloses : op.Loses c
      · simp [hloses, h.1 hloses]
      · simp [hloses, h.2 hloses]

/-- The target at the end of a run was found by a step behind which every step left it, or it was
there at the start and every step left it. -/
theorem current_taken {steps : List Operation} (h : ∀ s ∈ taken steps c, Accounted s.1 s.2)
    (t : Target) : (after steps c).current? = some t ↔
      (∃ before s later, taken steps c = before ++ s :: later ∧ s.1.found? s.2 = some t ∧
        ∀ s' ∈ later, Leaves s') ∨
      c.current? = some t ∧ ∀ s ∈ taken steps c, Leaves s := by
  -- on the steps; the last that found a target decides, or else what was current before
  induction steps generalizing c with
  | nil => simp [taken, after]
  | cons step steps ih =>
      rw [taken] at h
      obtain ⟨hstep, hsteps⟩ := List.forall_mem_cons.mp h
      rw [after_cons, ih hsteps, hstep.current_iff, taken, List.forall_mem_cons]
      refine ⟨?_, ?_⟩
      · rintro (⟨before, s, later, hsplit, hfound, hleaves⟩ |
          ⟨hfound | ⟨hfirst, hcurrent⟩, hleaves⟩)
        · exact .inl ⟨(step, c) :: before, s, later, congrArg _ hsplit, hfound, hleaves⟩
        · exact .inl ⟨[], (step, c), _, rfl, hfound, hleaves⟩
        · exact .inr ⟨hcurrent, hfirst, hleaves⟩
      · rintro (⟨_ | ⟨first, before⟩, s, later, hsplit, hfound, hleaves⟩ |
          ⟨hcurrent, hfirst, hleaves⟩)
        · obtain ⟨rfl, rfl⟩ := List.cons.inj hsplit
          exact .inr ⟨.inl hfound, hleaves⟩
        · exact .inl ⟨before, s, later, (List.cons.inj hsplit).2, hfound, hleaves⟩
        · exact .inr ⟨.inr ⟨hfirst, hcurrent⟩, hleaves⟩

/-- A run that starts without a target. -/
theorem current_after {c : Chip (Noted Crossing τ)} (hc : c.current? = none) (ops : List Operation)
    (t : Target) : (after ops c).current? = some t ↔
      ∃ before s later, history ops c = before ++ s :: later ∧ s.1.found? s.2 = some t ∧
        ∀ s' ∈ later, Leaves s' := by
  obtain ⟨steps, hsteps, hafter⟩ := history_eq_taken ops c
  have hall : ∀ s ∈ taken steps c, Accounted s.1 s.2 := fun s hs =>
    accounted_step (not_polls_of_mem_history (hsteps ▸ hs))
  rw [← hafter, current_taken hall, ← hsteps, hc]
  exact or_iff_left nofun

/-! ## Polls that answer -/

/-- A target that is answered with is the current one. -/
def Remembers (a : Op (Chip (Noted Crossing τ)) (Option Target)) : Prop :=
  ∀ c t, (a c).result = .ok (some t) → (a c).state.current? = some t

theorem remembers_selectPassive (m : Modulation) (data : Bytes) :
    Remembers (selectPassive m data : Op (Chip (Noted Crossing τ)) _) := by
  intro c t h
  have hfound := finding_selectPassive m data c
  rw [Settled, h] at hfound
  exact hfound

theorem remembers_pollOnce (ms : List Modulation) :
    Remembers (pollOnce ms : Op (Chip (Noted Crossing τ)) _) := by
  induction ms with
  | nil =>
      intro c t h
      cases h
  | cons m ms ih =>
      intro c t h
      rw [pollOnce, (Act.attempt_bind _ _ _).1] at h
      rw [pollOnce, (Act.attempt_bind _ _ _).2]
      cases hselect : (selectPassive m [] c).result with
      | ok found =>
          rw [hselect] at h
          cases found with
          | none => exact ih _ t h
          | some t' =>
              obtain rfl : t' = t := Option.some.inj (Except.ok.inj h)
              exact remembers_selectPassive m [] c t' hselect
      | error e =>
          rw [hselect] at h
          cases e with
          | timeout => exact ih _ t h
          | _ => cases h

theorem remembers_pollRounds (ms : List Modulation) (n : Nat) :
    Remembers (pollRounds ms n : Op (Chip (Noted Crossing τ)) _) := by
  induction n with
  | zero =>
      intro c t h
      cases h
  | succ n ih =>
      intro c t h
      rcases (pollOnce ms).yields_or_fails c with ⟨found, honce⟩ | ⟨e, honce⟩
      · rw [pollRounds, (honce.bind _).1] at h
        rw [pollRounds, (honce.bind _).2]
        cases found with
        | none => exact ih _ t h
        | some t' =>
            obtain rfl : t' = t := Option.some.inj (Except.ok.inj h)
            exact remembers_pollOnce ms c t' honce.1
      · rw [pollRounds, (honce.bind _).1] at h
        cases h

/-- A command whose reply has no status byte is of no account for the target. -/
theorem keeps_current_command {code : UInt8} (hcode : hasStatusByte code = false)
    (params : Bytes) : Act.Keeps current? (command (code :: params) : Op (Chip τ) Unit) := by
  refine .bind (.bind Act.keeps_get fun c => ?_) fun _ => Act.keeps_pure _
  refine .bind (Act.keeps_modify fun _ => rfl) fun _ => .bind (Act.keeps_log _ _ _) fun _ => ?_
  refine .bind (fun _ => rfl) fun _ => .bind (fun _ => rfl) fun reply => ?_
  refine .bind (Act.keeps_log _ _ _) fun _ => ?_
  rw [if_neg (Bool.eq_false_iff.mp hcode)]
  exact Act.keeps_pure _

theorem keeps_current_switch (enable : Bool) :
    Act.Keeps current? (setBool .infiniteSelect enable : Op (Chip τ) Unit) :=
  .bind Act.keeps_get fun _ =>
    (keeps_current_command rfl _).bind fun _ => Act.keeps_modify fun _ => rfl

omit [ChipLink τ] in
/-- What comes before a target is looked for is of no account. -/
theorem Remembers.behind {α : Type} {a : Op (Chip (Noted Crossing τ)) α}
    {f : α → Op (Chip (Noted Crossing τ)) (Option Target)} (hf : ∀ x, Remembers (f x)) :
    Remembers (a >>= f) := by
  intro c t h
  rcases a.yields_or_fails c with ⟨x, ha⟩ | ⟨e, ha⟩
  · rw [(ha.bind f).1] at h
    rw [(ha.bind f).2]
    exact hf x _ t h
  · exact nomatch (ha.bind f).1.symm.trans h

omit [ChipLink τ] in
/-- A step behind that is of no account for the target comes to the same answer, or fails. -/
theorem Remembers.restoring {a : Op (Chip (Noted Crossing τ)) (Option Target)}
    {rest : Op (Chip (Noted Crossing τ)) Unit} (ha : Remembers a)
    (hrest : Act.Keeps current? rest) :
    Remembers (a.attempt >>= fun found => rest >>= fun _ => Act.ofExcept found) := by
  intro c t h
  rw [(Act.attempt_bind _ _ _).1] at h
  rw [(Act.attempt_bind _ _ _).2]
  let answer (_ : Unit) : Op (Chip (Noted Crossing τ)) (Option Target) :=
    Act.ofExcept (a c).result
  rcases rest.yields_or_fails (a c).state with ⟨_, hdone⟩ | ⟨e, hdone⟩
  · have hanswer : (Act.ofExcept (a c).result (rest (a c).state).state).result = .ok (some t) :=
      (hdone.bind answer).1.symm.trans h
    rw [Act.ofExcept_apply] at hanswer
    rw [(hdone.bind _).2, Act.ofExcept_apply]
    exact (hrest _).trans (ha c t hanswer)
  · exact nomatch (hdone.bind answer).1.symm.trans h

theorem remembers_softwarePoll (ms : List Modulation) (pollNr : UInt8) :
    Remembers (softwarePoll ms pollNr : Op (Chip (Noted Crossing τ)) _) := by
  refine .behind fun c => ?_
  have hrounds := remembers_pollRounds (τ := τ) ms (rounds pollNr)
  by_cases hunbounded : c.infiniteSelect = true
  · simp only [if_pos hunbounded]
    exact .behind fun _ => hrounds.restoring (keeps_current_switch true)
  · simp only [if_neg hunbounded]
    exact hrounds.restoring (Act.keeps_pure ())

omit [ChipLink τ] in
theorem eq_ok_of_join {r : Except Error (Option Target)} {t : Target}
    (h : r.toOption.join = some t) : r = .ok (some t) := by
  rcases r with e | _ | t'
  · cases h
  · cases h
  · rw [Option.some.inj h]

/-- **A target that an operation answers with is the current one.** -/
theorem current_of_found {op : Operation} {c : Chip (Noted Crossing τ)} {t : Target}
    (h : op.found? c = some t) : (op.run c).current? = some t := by
  by_cases hpolls : op.Polls c
  · unfold Operation.Polls at hpolls
    split at hpolls
    · rename_i ms pollNr period
      have hrun : pollTarget ms pollNr period c = softwarePoll ms pollNr c :=
        pollTarget_of_selecting hpolls
      have hresult : (pollTarget ms pollNr period c).result.toOption.join = some t := h
      change (pollTarget ms pollNr period c).state.current? = some t
      rw [hrun] at hresult ⊢
      exact remembers_softwarePoll ms pollNr c t (eq_ok_of_join hresult)
    · exact hpolls.elim
  · exact ((accounted_step hpolls).current_iff t).mpr (.inl h)

/-! ## The link itself -/

theorem found?_eq {op : Operation} {c : Chip (Noted Crossing τ)} {c' : Chip τ} (h : Same c c') :
    op.found? c = op.found? c' := by
  have hcall {α : Type} (call : Call α) : (call.run c).result = (call.run c').result :=
    (simulates_run interchange_noted call (fun _ _ => trivial) c c' h).1
  unfold Operation.found?
  split
  · rename_i m data
    exact congrArg (fun r => Option.join r.toOption) (hcall (.selectPassive m data))
  · rename_i ms pollNr period
    exact congrArg (fun r => Option.join r.toOption) (hcall (.pollTarget ms pollNr period))
  · rename_i mode rate initiator timeout
    exact congrArg (fun r => Option.join r.toOption)
      (hcall (.selectDep mode rate initiator timeout))
  · rfl

/-- **The current target is the one that was found last, unless it was lost since.**  It is there
at the end of a run exactly if a step has found it and every step behind that one has left it, and
what an operation answers with is current at its end.  A check succeeds only if there is a current
target and no other one is asked for, and otherwise nothing happens in it. -/
theorem current_eq_some_iff (ops : List Operation) (l : τ) :
    let c : Chip τ := after ops { link := l }
    (∀ t, c.current? = some t ↔ ∃ before s later,
        history ops { link := (⟨l, []⟩ : Noted Crossing τ) } = before ++ s :: later ∧
          s.1.found? s.2 = some t ∧ ∀ s' ∈ later, s'.1.found? s'.2 = none ∧ ¬ s'.1.Loses s'.2) ∧
      (∀ (op : Operation) (t : Target), op.found? c = some t → (op.run c).current? = some t) ∧
      ∀ t?, ((targetIsPresent t? c).result = .ok () →
          ∃ t, c.current? = some t ∧ (t? = none ∨ t? = some t)) ∧
        ((∃ t, c.current? = some t ∧ (t? = none ∨ t? = some t)) ∨
          (targetIsPresent t? c).state = c) := by
  intro c
  have hstart : Same ({ link := ⟨l, []⟩ } : Chip (Noted Crossing τ)) { link := l } :=
    ⟨rfl, trivial, rfl⟩
  -- the history is that of a noted link, and notes are of no account for the host
  have hsame := paired_after ops hstart
  have hcurrent {c : Chip (Noted Crossing τ)} {c' : Chip τ} (h : Same c c') :
    c'.current? = c.current? := congrArg current? h.host.symm
  refine ⟨fun t => ?_, fun op t h => ?_, fun t? => ⟨fun h => ?_, ?_⟩⟩
  · rw [hcurrent hsame, current_after rfl]
    rfl
  · rw [hcurrent (paired_run op hsame)]
    exact current_of_found ((found?_eq hsame).trans h)
  · exact Decidable.byContradiction fun hnot => (targetIsPresent_of_not_asks hnot).1 h
  · by_cases hasks : Asks t? c
    · exact .inl hasks
    · exact .inr (targetIsPresent_of_not_asks hasks).2

end NearField.Pn53x.Chip
