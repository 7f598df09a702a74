import NearField.Proofs.Pn53x.Allowance
import NearField.Proofs.Pn53x.History
import NearField.Proofs.Pn53x.Shadow

/-!
# Entries that a poll leaves out

A poll is given a list of modulations.  A chip that is polled by selecting has every entry
selected, in order and in each round, until a target answers or a selection fails
(`softwarePoll_turns`).  A chip that polls by itself is given the type of each entry, but of the
first fifteen only: the rest of a longer list is dropped without a word, and so a modulation among
it that the chip can not poll for is not refused (`sent_autoPoll`).  So a poll leaves no entry out
exactly if the chip does not poll by itself, or the list is short enough, or the poll is refused
for one of the first entries (`leavesNoneOut_iff`).
-/

namespace NearField.Pn53x
open Simulated

/-! ## Lists of types -/

section

variable {α β : Type} {f : α → Option β} {xs : List α} {ys : List β}

theorem mapM_eq_some_iff : xs.mapM f = some ys ↔ xs.map f = ys.map some := by
  induction xs generalizing ys with
  | nil => cases ys <;> simp
  | cons x xs ih => cases ys <;> simp [List.mapM_cons, Option.bind_eq_some_iff, ih]

theorem mapM_eq_none_iff : xs.mapM f = none ↔ ∃ x ∈ xs, f x = none := by
  induction xs with
  | nil => simp
  | cons x xs ih =>
      cases hx : f x with
      | none => simp [List.mapM_cons, hx]
      | some y =>
          cases hxs : xs.mapM f with
          | none => simpa [List.mapM_cons, hx, hxs] using ih.mp hxs
          | some ys => simpa [List.mapM_cons, hx, hxs] using ih

end

namespace Chip

variable {τ : Type} [ChipLink τ] {ms : List Modulation} {m : Modulation} {pollNr period : UInt8}
  {c : Chip (Tapped τ)}

/-! ## Polling by selecting -/

/-- The command that selects a target of a modulation; there is none if the family of chips knows
no such targets. -/
def selection (m : Modulation) : List Bytes :=
  (brty? m).toList.map fun brty => Command.listPassiveTarget 1 brty []

/-- The entries of a list in order, round after round. -/
def turns (ms : List Modulation) (n : Nat) : List Modulation := (List.replicate n ms).flatten

/-- The chip once entries had their turns. -/
def selecting (ms : List Modulation) (c : Chip τ) : Chip τ :=
  ms.foldl (fun c m => (selectPassive m [] c).state) c

/-- Of the turns that are to come on a chip none was skipped.  If a poll ends without a target
and without a failure all of them came, each with a modulation that can be selected; if not, it
ends as the last one did. -/
structure InTurn (all : List Modulation) (c : Chip τ) (had : List Modulation)
    (r : Except Error (Option Target)) : Prop where
  inOrder : had <+: all
  complete : r = .ok none → had = all ∧ ∀ m ∈ all, (brty? m).isSome
  ended : r ≠ .ok none → ∃ earlier m, had = earlier ++ [m] ∧
    (selectPassive m [] (selecting earlier c)).result = r

/-- A selection that a poll passes over. -/
def PassedOver (r : Except Error (Option Target)) : Prop := r = .ok none ∨ r = .error .timeout

omit [ChipLink τ] in
theorem yields_ensureSupported {brty : UInt8} (hm : brty? m = some brty) (c : Chip τ) :
    (ensureSupported m : Op (Chip τ) UInt8).Yields c brty c := by
  rw [ensureSupported, hm]
  exact Act.yields_pure.mpr ⟨rfl, rfl⟩

section View

variable {β : Type} {view : Chip τ → β}

omit [ChipLink τ] in
theorem keeps_remember (hview : ∀ c t, view { c with current? := some t } = view c)
    (t : Target) : Act.Keeps view (remember t : Op (Chip τ) (Option Target)) :=
  .bind (Act.keeps_modify fun c => hview c t) fun _ => Act.keeps_pure _

omit [ChipLink τ] in
theorem keeps_decodeTarget (data : Bytes) (m : Modulation) :
    Act.Keeps view (decodeTarget data m : Op (Chip τ) Target) := by
  refine .bind ?_ fun _ => Act.keeps_pure _
  exact fun _ => rfl

omit [ChipLink τ] in
/-- How long a chip may take to answer a selection. -/
def selectionTimeout (c : Chip τ) : Timeout :=
  if c.infiniteSelect then .infinite else c.commandTimeout

/-- A selection changes what its exchange changes, and the current target. -/
theorem view_selectPassive (hview : ∀ c t, view { c with current? := some t } = view c)
    {brty : UInt8} (hm : brty? m = some brty) {data : Bytes} (c : Chip τ) :
    view (selectPassive m data c).state =
      view (transceive (Command.listPassiveTarget 1 brty data) (selectionTimeout c) c).state := by
  rw [selectPassive, ((yields_ensureSupported hm c).bind _).2, (Act.get_bind _ _).2]
  refine Act.keeps_after (fun reply => ?_) c
  split
  · exact Act.keeps_pure _
  · exact Act.keeps_pure _
  · exact .bind (keeps_decodeTarget _ m) fun t => keeps_remember hview t
  · exact Act.keeps_throw _

end View

theorem fails_selectPassive (hm : brty? m = none) (c : Chip τ) :
    (selectPassive m []).Fails c .deviceNotSupported c := by
  unfold selectPassive ensureSupported
  rw [hm]
  exact ⟨rfl, rfl⟩

theorem isSome_of_passedOver {c : Chip τ} (h : PassedOver (selectPassive m [] c).result) :
    (brty? m).isSome := by
  cases hm : brty? m with
  | some brty => rfl
  | none =>
      rw [(fails_selectPassive hm c).1] at h
      rcases h with h | h <;> cases h

/-- A selection leaves the link as carrying its command does. -/
theorem link_selectPassive {brty : UInt8} (hm : brty? m = some brty) {data : Bytes} (c : Chip τ) :
    (selectPassive m data c).state.link =
      (carry inListPassiveTarget (1 :: brty :: data) (selectionTimeout c) c.link).state := by
  have hview (c : Chip τ) t : link { c with current? := some t } = link c := rfl
  exact (view_selectPassive hview hm c).trans (link_transceive _ _ _ c)

theorem sent_selectPassive (m : Modulation) (c : Chip (Tapped τ)) :
    (selectPassive m [] c).state.sent = c.sent ++ selection m := by
  cases hm : brty? m with
  | none =>
      rw [(fails_selectPassive hm c).2, selection, hm]
      exact (List.append_nil _).symm
  | some brty =>
      have hselection : selection m = [Command.listPassiveTarget 1 brty []] := by
        rw [selection, hm]
        rfl
      rw [sent, link_selectPassive hm, sent_carry, hselection]
      rfl

/-- An entry that is silent lets the next one have its turn. -/
theorem pollOnce_of_passedOver (ms : List Modulation) {c : Chip τ}
    (h : PassedOver (selectPassive m [] c).result) :
    (pollOnce (m :: ms) c).result = (pollOnce ms (selectPassive m [] c).state).result ∧
      (pollOnce (m :: ms) c).state = (pollOnce ms (selectPassive m [] c).state).state := by
  rw [pollOnce, (Act.attempt_bind _ _ _).1, (Act.attempt_bind _ _ _).2]
  rcases h with h | h <;> rw [h] <;> exact ⟨rfl, rfl⟩

/-- Any other ends the round. -/
theorem pollOnce_of_not_passedOver (ms : List Modulation) {c : Chip τ}
    (h : ¬ PassedOver (selectPassive m [] c).result) :
    (pollOnce (m :: ms) c).result = (selectPassive m [] c).result ∧
      (pollOnce (m :: ms) c).state = (selectPassive m [] c).state := by
  rw [pollOnce, (Act.attempt_bind _ _ _).1, (Act.attempt_bind _ _ _).2]
  generalize (selectPassive m [] c).result = r at h
  cases r with
  | ok found =>
      cases found with
      | none => exact absurd (.inl rfl) h
      | some t => exact ⟨rfl, rfl⟩
  | error e => cases e <;> first | exact absurd (.inr rfl) h | exact ⟨rfl, rfl⟩

/-- **One round** selects entry after entry. -/
theorem pollOnce_inTurn (ms : List Modulation) (c : Chip τ) :
    ∃ had, InTurn ms c had (pollOnce ms c).result ∧ (pollOnce ms c).state = selecting had c := by
  induction ms generalizing c with
  | nil =>
      refine ⟨[], ⟨List.prefix_refl _, fun _ => ⟨rfl, List.forall_mem_nil _⟩, fun h => ?_⟩, rfl⟩
      exact absurd rfl h
  | cons m ms ih =>
      by_cases h : PassedOver (selectPassive m [] c).result
      · obtain ⟨hresult, hstate⟩ := pollOnce_of_passedOver ms h
        obtain ⟨had, hturn, hturned⟩ := ih (selectPassive m [] c).state
        rw [hresult, hstate]
        refine ⟨m :: had, ⟨List.cons_prefix_cons.mpr ⟨rfl, hturn.inOrder⟩, fun hnone => ?_,
          fun hsome => ?_⟩, hturned⟩
        · obtain ⟨rfl, hall⟩ := hturn.complete hnone
          exact ⟨rfl, List.forall_mem_cons.mpr ⟨isSome_of_passedOver h, hall⟩⟩
        · obtain ⟨earlier, last, rfl, hlast⟩ := hturn.ended hsome
          exact ⟨m :: earlier, last, rfl, hlast⟩
      · obtain ⟨hresult, hstate⟩ := pollOnce_of_not_passedOver ms h
        rw [hresult, hstate]
        refine ⟨[m], ⟨List.cons_prefix_cons.mpr ⟨rfl, List.nil_prefix⟩, fun hnone => ?_,
          fun _ => ⟨[], m, rfl, rfl⟩⟩, rfl⟩
        exact absurd (.inl hnone) h

/-- A longer round goes on where a silent one ends. -/
theorem pollOnce_append (ms later : List Modulation) :
    (pollOnce (ms ++ later) : Op (Chip τ) (Option Target)) =
      pollOnce ms >>= fun found => found.elim (pollOnce later) fun t => pure (some t) := by
  induction ms with
  | nil => rfl
  | cons m ms ih =>
      rw [List.cons_append, pollOnce, pollOnce, bind_assoc]
      refine congrArg _ (funext fun r => ?_)
      cases r with
      | ok found =>
          cases found with
          | none => exact ih
          | some t => rfl
      | error e => cases e <;> first | exact ih | rfl

/-- **All rounds** are one long round. -/
theorem pollRounds_eq (ms : List Modulation) (n : Nat) :
    (pollRounds ms n : Op (Chip τ) (Option Target)) = pollOnce (turns ms n) := by
  induction n with
  | zero => rfl
  | succ n ih =>
      have hturns : turns ms (n + 1) = ms ++ turns ms n := rfl
      rw [hturns, pollOnce_append, pollRounds, ih]
      refine congrArg _ (funext fun found => ?_)
      cases found <;> rfl

theorem sent_selecting (ms : List Modulation) (c : Chip (Tapped τ)) :
    (selecting ms c).sent = c.sent ++ ms.flatMap selection := by
  induction ms generalizing c with
  | nil => exact (List.append_nil _).symm
  | cons m ms ih =>
      have hrest : (selecting (m :: ms) c).sent = _ := ih (selectPassive m [] c).state
      rw [hrest, sent_selectPassive, List.flatMap_cons, List.append_assoc]

/-- The command with which a poll switches unbounded selection, if it is on to begin with. -/
def switching (unbounded enable : Bool) : List Bytes :=
  if unbounded then [Command.rfRetries enable] else []

theorem sent_switch (enable : Bool) (c : Chip (Tapped τ)) :
    (setBool .infiniteSelect enable c).state.sent = c.sent ++ [Command.rfRetries enable] :=
  sent_setBool .infiniteSelect enable c

/-- The chip on which a poll goes its rounds. -/
def bounded (c : Chip τ) : Chip τ :=
  if c.infiniteSelect then (setBool .infiniteSelect false c).state else c

/-- A poll ends as its turns did, unless unbounded selection was on and the chip does not take the
command that switches it on again. -/
def Ends (c turned : Chip τ) (found r : Except Error (Option Target)) : Prop :=
  r = found ∨ c.infiniteSelect = true ∧
    ∃ e c', (setBool .infiniteSelect true).Fails turned e c' ∧ r = .error e

/-- A poll of a chip whose selection is bounded switches nothing. -/
theorem softwarePoll_of_bounded (ms : List Modulation) (pollNr : UInt8) {c : Chip τ}
    (h : c.infiniteSelect = false) :
    (softwarePoll ms pollNr c).result = (pollRounds ms (rounds pollNr) c).result ∧
      (softwarePoll ms pollNr c).state = (pollRounds ms (rounds pollNr) c).state := by
  rw [softwarePoll, (Act.get_bind _ _).1, (Act.get_bind _ _).2, h]
  simp only [Bool.false_eq_true, if_false]
  rw [(Act.attempt_bind _ _ _).1, (Act.attempt_bind _ _ _).2, Act.ofExcept_apply]
  exact ⟨rfl, rfl⟩

/-- A poll that can not bound selection ends there. -/
theorem softwarePoll_of_refused (ms : List Modulation) (pollNr : UInt8) {c c' : Chip τ} {e : Error}
    (h : c.infiniteSelect = true) (hoff : (setBool .infiniteSelect false).Fails c e c') :
    (softwarePoll ms pollNr).Fails c e c' := by
  rw [Act.Fails, softwarePoll, (Act.get_bind _ _).1, (Act.get_bind _ _).2, if_pos h]
  exact hoff.bind _

/-- A poll that could bound selection goes its rounds and switches back. -/
theorem softwarePoll_of_taken (ms : List Modulation) (pollNr : UInt8) {c c' : Chip τ}
    (h : c.infiniteSelect = true) (hoff : (setBool .infiniteSelect false).Yields c () c') :
    let polled := pollRounds ms (rounds pollNr) c'
    Ends c polled.state polled.result (softwarePoll ms pollNr c).result ∧
      (softwarePoll ms pollNr c).state = (setBool .infiniteSelect true polled.state).state := by
  intro polled
  rw [softwarePoll, (Act.get_bind _ _).1, (Act.get_bind _ _).2, if_pos h, (hoff.bind _).1,
    (hoff.bind _).2, (Act.attempt_bind _ _ _).1, (Act.attempt_bind _ _ _).2, if_pos h]
  rcases (setBool .infiniteSelect true).yields_or_fails polled.state with ⟨_, hon⟩ | ⟨e, hon⟩
  · have hfound :=
      Act.ofExcept_apply polled.result (setBool .infiniteSelect true polled.state).state
    have hresult := congrArg Outcome.result hfound
    rw [(hon.bind _).1, (hon.bind _).2]
    exact ⟨.inl hresult, congrArg Outcome.state hfound⟩
  · rw [(hon.bind _).1, (hon.bind _).2]
    exact ⟨.inr ⟨h, e, _, hon, rfl⟩, rfl⟩

/-- The entries have their turns and the poll ends as these do, or the chip does not take a
command that switches unbounded selection, and the poll fails. -/
def TurnsGiven (ms : List Modulation) (pollNr : UInt8) (c : Chip (Tapped τ))
    (polled : Outcome Error (Chip (Tapped τ)) (Option Target)) : Prop :=
  (∃ had found, InTurn (turns ms (rounds pollNr)) (bounded c) had found ∧
    Ends c (selecting had (bounded c)) found polled.result ∧
    polled.state.sent = c.sent ++ (switching c.infiniteSelect false ++
      had.flatMap selection ++ switching c.infiniteSelect true)) ∨
  c.infiniteSelect = true ∧
    (∃ e, (setBool .infiniteSelect false).Fails c e polled.state ∧ polled.result = .error e) ∧
    polled.state.sent = c.sent ++ switching c.infiniteSelect false

/-- **A poll by selecting gives every entry its turn.** -/
theorem softwarePoll_turns (ms : List Modulation) (pollNr : UInt8) (c : Chip (Tapped τ)) :
    TurnsGiven ms pollNr c (softwarePoll ms pollNr c) := by
  obtain ⟨had, hturn, hstate⟩ := pollOnce_inTurn (turns ms (rounds pollNr)) (bounded c)
  rw [← pollRounds_eq] at hturn hstate
  unfold TurnsGiven
  -- the switch is sent around the turns only where it stands on
  cases hflag : c.infiniteSelect with
  | false =>
      have hbounded : bounded c = c := by rw [bounded, hflag]; rfl
      obtain ⟨hresult, hpolled⟩ := softwarePoll_of_bounded ms pollNr hflag
      rw [hbounded] at hturn hstate ⊢
      refine .inl ⟨had, _, hturn, .inl hresult, ?_⟩
      rw [hpolled, hstate, sent_selecting]
      simp [switching]
  | true =>
      have hbounded : bounded c = (setBool .infiniteSelect false c).state := by
        rw [bounded, hflag]; rfl
      rcases (setBool .infiniteSelect false).yields_or_fails c with ⟨_, hoff⟩ | ⟨e, hoff⟩
      · obtain ⟨hends, hpolled⟩ := softwarePoll_of_taken ms pollNr hflag hoff
        rw [← hbounded, hstate] at hends hpolled
        refine .inl ⟨had, _, hturn, hends, ?_⟩
        rw [hpolled, sent_switch, sent_selecting, hbounded, sent_switch]
        simp [switching]
      · obtain ⟨hresult, hpolled⟩ := softwarePoll_of_refused ms pollNr hflag hoff
        refine .inr ⟨rfl, ⟨e, hpolled ▸ hoff, hresult⟩, ?_⟩
        rw [hpolled, sent_switch]
        rfl

/-! ## Chips that poll by themselves -/

omit [ChipLink τ] in
theorem keeps_link_readAutoPoll (reply : Bytes) :
    Act.Keeps link (readAutoPoll reply : Op (Chip τ) (Option Target)) := by
  unfold readAutoPoll
  split
  · exact Act.keeps_pure _
  · exact Act.keeps_pure _
  · refine .bind (Act.keeps_ofOption _ _) fun m => .bind (Act.keeps_require _ _) fun _ => ?_
    split
    · exact Act.keeps_throw _
    · exact .bind (keeps_decodeTarget _ m) fun t => keeps_remember (fun _ _ => rfl) t
  · exact Act.keeps_throw _

/-- A chip that polls by itself leaves the link as carrying the command does. -/
theorem link_autoPollFor (types : Bytes) (pollNr period : UInt8) (t : Timeout) (c : Chip τ) :
    (autoPollFor types pollNr period t c).state.link =
      (carry inAutoPoll (pollNr :: period :: types) t c.link).state :=
  (Act.keeps_after (fun reply => keeps_link_readAutoPoll reply) c).trans (link_transceive _ _ _ c)

/-- A chip polls by itself for the types of the first entries, if it has a type for each of them
and there is a time to give it. -/
theorem autoPoll_cases (ms : List Modulation) (pollNr period : UInt8) (c : Chip τ) :
    (∃ types t, (ms.take autoPollTypes).mapM autoPollType? = some types ∧
      autoPollTimeout? ms.length pollNr period = some t ∧
      autoPoll ms pollNr period c = autoPollFor types pollNr period t c) ∨
    ((∃ types, (ms.take autoPollTypes).mapM autoPollType? = some types) ∧
      autoPollTimeout? ms.length pollNr period = none ∧
      (autoPoll ms pollNr period).Yields c none c) ∨
    (ms.take autoPollTypes).mapM autoPollType? = none ∧
      (autoPoll ms pollNr period).Fails c .invalidArgument c := by
  unfold autoPoll
  cases (ms.take autoPollTypes).mapM autoPollType? with
  | none => exact .inr (.inr ⟨rfl, rfl, rfl⟩)
  | some types =>
      cases autoPollTimeout? ms.length pollNr period with
      | none => exact .inr (.inl ⟨⟨types, rfl⟩, rfl, rfl, rfl⟩)
      | some t => exact .inl ⟨types, t, rfl, rfl, rfl⟩

/-- The poll of a chip that polls by itself. -/
theorem pollTarget_of_selfPolling {c : Chip τ} (hms : ms ≠ []) (hnr : pollNr ≠ 0)
    (hperiod : period ≠ 0) (hkind : c.kind = .pn532) :
    pollTarget ms pollNr period c = autoPoll ms pollNr period c := by
  rw [pollTarget_run, if_pos (by simp [hms, hnr, hperiod]), if_neg (not_not_intro hkind)]

/-- **The chip is given the types of the first fifteen entries**, or nothing if it has no type for
one of these.  It is also given nothing if there is no time to give it. -/
theorem sent_autoPoll (ms : List Modulation) (pollNr period : UInt8) (c : Chip (Tapped τ)) :
    (∃ types, (ms.take autoPollTypes).mapM autoPollType? = some types ∧
      (autoPoll ms pollNr period c).state.sent =
        c.sent ++ [inAutoPoll :: pollNr :: period :: types]) ∨
    ((∃ types, (ms.take autoPollTypes).mapM autoPollType? = some types) ∧
      autoPollTimeout? ms.length pollNr period = none ∧
      (autoPoll ms pollNr period).Yields c none c) ∨
    (ms.take autoPollTypes).mapM autoPollType? = none ∧
      (autoPoll ms pollNr period).Fails c .invalidArgument c := by
  rcases autoPoll_cases ms pollNr period c with ⟨types, t, htypes, -, hpoll⟩ | hnone
  · refine .inl ⟨types, htypes, ?_⟩
    rw [hpoll, sent, link_autoPollFor]
    exact sent_carry _ _ _ _
  · exact .inr hnone

/-- The chip is given the type of every entry, in order, or the poll fails and it is given
nothing. -/
def TypesGiven (ms : List Modulation) (pollNr period : UInt8) (c : Chip (Tapped τ))
    (polled : Outcome Error (Chip (Tapped τ)) (Option Target)) : Prop :=
  (∃ types, ms.mapM autoPollType? = some types ∧
    polled.state.sent = c.sent ++ [inAutoPoll :: pollNr :: period :: types]) ∨
  (∃ e, polled.result = .error e) ∧ polled.state.sent = c.sent

theorem typesGiven_iff : TypesGiven ms pollNr period c (autoPoll ms pollNr period c) ↔
    ms.length ≤ autoPollTypes ∨ ∃ m ∈ ms.take autoPollTypes, autoPollType? m = none := by
  unfold TypesGiven
  rcases sent_autoPoll ms pollNr period c with
    ⟨types, htypes, hsent⟩ | ⟨⟨types, htypes⟩, htime, hends⟩ | ⟨hnone, hfails⟩
  · refine ⟨?_, ?_⟩
    · rintro (⟨all, hall, hsent'⟩ | ⟨-, hsent'⟩)
      · -- the types of the first entries are those of all of them
        obtain rfl : types = all := by simpa using hsent.symm.trans hsent'
        have hfirst := congrArg List.length (mapM_eq_some_iff.mp htypes)
        have hlength := congrArg List.length (mapM_eq_some_iff.mp hall)
        simp only [List.length_map, List.length_take] at hfirst hlength
        omega
      · exact absurd (hsent.symm.trans hsent') (by simp)
    · rintro (hshort | hunknown)
      · rw [List.take_of_length_le hshort] at htypes
        exact .inl ⟨types, htypes, hsent⟩
      · rw [mapM_eq_none_iff.mpr hunknown] at htypes
        cases htypes
  · -- a list that gets no time is long, and nothing tells of it
    refine iff_of_false ?_ ?_
    · rintro (⟨all, -, hsent⟩ | ⟨⟨e, hfails⟩, -⟩)
      · exact absurd ((congrArg sent hends.2).symm.trans hsent) (by simp)
      · exact absurd (hends.1.symm.trans hfails) (by simp)
    · rintro (hshort | hunknown)
      · have hcount : ms.length ≤ 442 := Nat.le_trans hshort (by decide)
        obtain ⟨t, ht⟩ := exists_autoPollTimeout? hcount pollNr period
        exact absurd (htime.symm.trans ht) (by simp)
      · rw [mapM_eq_none_iff.mpr hunknown] at htypes
        cases htypes
  · refine iff_of_true (.inr ⟨⟨_, hfails.1⟩, congrArg sent hfails.2⟩) (.inr ?_)
    exact mapM_eq_none_iff.mp hnone

/-! ## Polling -/

/-- No entry of a list is left out of a poll without a word. -/
def LeavesNoneOut (ms : List Modulation) (pollNr period : UInt8) (c : Chip (Tapped τ)) : Prop :=
  let polled := pollTarget ms pollNr period c
  if c.kind = .pn532 then TypesGiven ms pollNr period c polled else TurnsGiven ms pollNr c polled

/-- **A poll leaves no entry out exactly if the chip does not poll by itself, or the list has
fifteen entries at most, or one of the first fifteen is of a kind that can not be polled for.**  In
the last case the poll is refused. -/
theorem leavesNoneOut_iff (hms : ms ≠ []) (hnr : pollNr ≠ 0) (hperiod : period ≠ 0)
    (c : Chip (Tapped τ)) : LeavesNoneOut ms pollNr period c ↔
      (c.kind = .pn532 → ms.length ≤ 15 ∨ ∃ m ∈ ms.take 15, autoPollType? m = none) := by
  have hvalid : (!ms.isEmpty && pollNr != 0 && period != 0) = true := by
    simp [hms, hnr, hperiod]
  unfold LeavesNoneOut
  by_cases hkind : c.kind = .pn532
  · rw [if_pos hkind, pollTarget_of_selfPolling hms hnr hperiod hkind]
    exact typesGiven_iff.trans ⟨fun h _ => h, fun h => h hkind⟩
  · rw [if_neg hkind]
    refine iff_of_true ?_ fun h => absurd h hkind
    rw [pollTarget_of_selecting ⟨hvalid, hkind⟩]
    exact softwarePoll_turns ms pollNr c

/-- A chip that polls by itself, behind a link that is silent. -/
def selfPolling : Chip (Tapped ChipScript) := { link := { link := {} }, kind := .pn532 }

/-- Fifteen entries are polled for, and one of sixteen is left out. -/
theorem leavesNoneOut_fifteen :
    let entries (n : Nat) : List Modulation := List.replicate n ⟨.iso14443a, .kbps106⟩
    LeavesNoneOut (entries 15) 1 1 selfPolling ∧ ¬ LeavesNoneOut (entries 16) 1 1 selfPolling := by
  intro entries
  constructor
  · exact (leavesNoneOut_iff (by decide) (by decide) (by decide) selfPolling).mpr
      fun _ => .inl (by decide)
  · intro h
    have hfits := (leavesNoneOut_iff (by decide) (by decide) (by decide) selfPolling).mp h rfl
    exact absurd hfits (by decide)

/-- A sixteenth entry that can not be polled for is dropped, where the poll should be refused. -/
theorem leavesNoneOut_not_always :
    let ms : List Modulation := List.replicate 15 ⟨.iso14443a, .kbps106⟩ ++ [⟨.dep, .kbps106⟩]
    (pollTarget ms 1 1 selfPolling).state.sent =
        [inAutoPoll :: 1 :: 1 :: List.replicate 15 0x10] ∧
      ¬ LeavesNoneOut ms 1 1 selfPolling := by
  intro ms
  have htypes : (ms.take autoPollTypes).mapM autoPollType? = some (List.replicate 15 0x10) := rfl
  have hpoll : pollTarget ms 1 1 selfPolling = autoPoll ms 1 1 selfPolling :=
    pollTarget_of_selfPolling (by decide) (by decide) (by decide) rfl
  obtain ⟨t, ht⟩ := exists_autoPollTimeout? (by decide : ms.length ≤ 442) 1 1
  refine ⟨?_, fun h => ?_⟩
  · rw [hpoll]
    rcases sent_autoPoll ms 1 1 selfPolling with ⟨types, h, hsent⟩ | ⟨-, hnone, -⟩ | ⟨hnone, -⟩
    · obtain rfl : List.replicate 15 0x10 = types := Option.some.inj (htypes.symm.trans h)
      exact hsent
    · exact absurd (hnone.symm.trans ht) (by simp)
    · exact absurd (hnone.symm.trans htypes) (by simp)
  · have hgiven : TypesGiven ms 1 1 selfPolling (pollTarget ms 1 1 selfPolling) := h
    rw [hpoll] at hgiven
    exact absurd (typesGiven_iff.mp hgiven) (by decide)

end Chip

end NearField.Pn53x
