import NearField.Log

/-!
# Silence while a guard is alive

A guard is to keep the log silent until it is released, whatever other guards do: the filter is
off while any guard is alive, and the one of the beginning while none is (`Right`).  A guard puts
back what it found.  As long as the log is right every guard found silence but the oldest, which
found the filter of the beginning (`Layered`), so any guard may go but the oldest before the others
(`Outlived`).  When that one goes the log is loud while a guard is alive, and the last guard leaves
it silent for good.

The order in which guards come is the order of their places.  So uses keep a log right at any time
exactly when no guard is outlived when it is released, or there is nothing to put back
(`right_throughout_iff`).
-/

namespace NearField.Log.QuietLog

/-- Somebody asks for silence, or releases the guard at a place. -/
inductive Use where
  | silence
  | release (i : Nat)
  deriving DecidableEq, Repr

/-- What a use leaves. -/
def use (q : QuietLog) : Use → QuietLog
  | .silence => q.silence
  | .release i => q.release i

/-- What uses leave of a log without guards. -/
def after (level : Filter) (uses : List Use) : QuietLog := uses.foldl use ⟨level, []⟩

/-- The guard at a place is alive, and found `f`. -/
def Found (q : QuietLog) (i : Nat) (f : Filter) : Prop := q.guards[i]? = some (some f)

/-- The guard at a place is alive. -/
def Alive (q : QuietLog) (i : Nat) : Prop := ∃ f, q.Found i f

/-- The filter is off while a guard is alive, and `level` while none is. -/
structure Right (level : Filter) (q : QuietLog) : Prop where
  silent : ∀ i, q.Alive i → q.filter = .off
  restored : (∀ i, ¬ q.Alive i) → q.filter = level

/-- The guard at a place is the oldest one alive, and a younger one is alive. -/
structure Outlived (q : QuietLog) (i : Nat) : Prop where
  alive : q.Alive i
  oldest : ∀ j, j < i → ¬ q.Alive j
  another : ∃ j, i < j ∧ q.Alive j

/-- The log is right: its oldest guard found the filter of the beginning, every other silence. -/
structure Layered (level : Filter) (q : QuietLog) : Prop extends Right level q where
  oldest : ∀ i f, q.Found i f → (∀ j, j < i → ¬ q.Alive j) → f = level
  others : ∀ i j f, j < i → q.Alive j → q.Found i f → f = .off

variable {level f : Filter} {q : QuietLog} {i j : Nat}

/-! ## Who is alive -/

theorem Alive.lt_length (h : q.Alive i) : i < q.guards.length := by
  obtain ⟨f, hf⟩ := h
  exact (List.getElem?_eq_some_iff.mp hf).1

theorem found_silence : q.silence.Found i f ↔
    q.Found i f ∨ i = q.guards.length ∧ f = q.filter := by
  rw [Found, Found, silence, List.getElem?_append]
  split
  · rename_i hlt
    exact ⟨.inl, fun h => h.resolve_right fun hnew => absurd hnew.1 (Nat.ne_of_lt hlt)⟩
  · rename_i hge
    rw [List.getElem?_eq_none (Nat.not_lt.mp hge), List.getElem?_singleton]
    simp only [Nat.sub_eq_zero_iff_le, reduceCtorEq, false_or]
    constructor
    · intro h
      split at h
      · exact ⟨by omega, by simpa using h.symm⟩
      · cases h
    · rintro ⟨rfl, rfl⟩
      simp

/-- The guards that were alive are, and one more. -/
theorem alive_silence : q.silence.Alive i ↔ q.Alive i ∨ i = q.guards.length := by
  simp only [Alive, found_silence, exists_or, exists_and_left, exists_eq, and_true]

theorem release_of_not_alive (h : ¬ q.Alive i) : q.release i = q := by
  unfold release
  split
  · exact absurd ⟨_, ‹_›⟩ h
  · rfl

theorem release_of_found (h : q.Found i f) : q.release i = ⟨f, q.guards.set i none⟩ := by
  rw [release, h]

theorem found_release : (q.release i).Found j f ↔ i ≠ j ∧ q.Found j f := by
  by_cases hi : q.Alive i
  · obtain ⟨old, hold⟩ := hi
    rw [release_of_found hold, Found, Found, List.getElem?_set]
    by_cases hij : i = j <;> simp [hij]
  · rw [release_of_not_alive hi]
    refine ⟨fun h => ⟨?_, h⟩, And.right⟩
    rintro rfl
    exact hi ⟨f, h⟩

/-- The guards that were alive are, but the one that is released. -/
theorem alive_release : (q.release i).Alive j ↔ i ≠ j ∧ q.Alive j := by
  simp only [Alive, found_release, exists_and_left]

/-! ## One use -/

theorem layered_empty (level : Filter) : Layered level ⟨level, []⟩ where
  silent _ h := absurd h.lt_length (Nat.not_lt_zero _)
  restored _ := rfl
  oldest _ f hf := absurd (Alive.lt_length ⟨f, hf⟩) (Nat.not_lt_zero _)
  others _ _ f _ _ hf := absurd (Alive.lt_length ⟨f, hf⟩) (Nat.not_lt_zero _)

theorem Layered.silence (h : Layered level q) : Layered level q.silence where
  silent _ _ := rfl
  restored hnone := absurd (alive_silence.mpr (.inr rfl)) (hnone _)
  oldest i f hf hfirst := by
    have hfirst (j : Nat) (hj : j < i) (halive : q.Alive j) : False :=
      hfirst j hj (alive_silence.mpr (.inl halive))
    rcases found_silence.mp hf with hf | ⟨rfl, rfl⟩
    · exact h.oldest i f hf hfirst
    · exact h.restored fun j halive => hfirst j halive.lt_length halive
  others i j f hj halive hf := by
    have hin : i < q.silence.guards.length := Alive.lt_length ⟨f, hf⟩
    have hlength : q.silence.guards.length = q.guards.length + 1 := List.length_append
    have halive : q.Alive j := (alive_silence.mp halive).resolve_right (by omega)
    rcases found_silence.mp hf with hf | ⟨rfl, rfl⟩
    · exact h.others i j f hj halive hf
    · exact h.silent j halive

/-- A guard next to another is either outlived or younger than some guard. -/
theorem exists_older (hi : ¬ q.Outlived i) (halive : q.Alive i) (hj : q.Alive j) (hij : i ≠ j) :
    ∃ k, k < i ∧ q.Alive k := by
  refine Classical.byContradiction fun hnone => hi ⟨halive, fun k hk hkalive => ?_, j, ?_, hj⟩
  · exact hnone ⟨k, hk, hkalive⟩
  · have hji : ¬ j < i := fun hlt => hnone ⟨j, hlt, hj⟩
    omega

theorem Layered.release (h : Layered level q) (hi : ¬ q.Outlived i) :
    Layered level (q.release i) := by
  by_cases halive : q.Alive i
  case neg => rwa [release_of_not_alive halive]
  obtain ⟨old, hold⟩ := id halive
  have hfilter : (q.release i).filter = old := congrArg filter (release_of_found hold)
  refine ⟨⟨fun j hj => ?_, fun hnone => ?_⟩, fun j f hf hfirst => ?_, fun j k f hk hkalive hf => ?_⟩
  · obtain ⟨hij, hj⟩ := alive_release.mp hj
    obtain ⟨k, hk, hkalive⟩ := exists_older hi halive hj hij
    exact hfilter.trans (h.others i k old hk hkalive hold)
  · refine hfilter.trans (h.oldest i old hold fun j hj hjalive => ?_)
    exact hnone j (alive_release.mpr ⟨Nat.ne_of_gt hj, hjalive⟩)
  · obtain ⟨hij, hf⟩ := found_release.mp hf
    refine h.oldest j f hf fun k hk hkalive => ?_
    by_cases hik : i = k
    · -- the guard that is released is older than this one, so some other is
      obtain ⟨l, hl, hlalive⟩ := exists_older hi halive ⟨f, hf⟩ hij
      exact hfirst l (by omega) (alive_release.mpr ⟨Nat.ne_of_gt hl, hlalive⟩)
    · exact hfirst k hk (alive_release.mpr ⟨hik, hkalive⟩)
  · exact h.others j k f hk (alive_release.mp hkalive).2 (found_release.mp hf).2

/-- A log that was silent to begin with. -/
theorem layered_off_iff : Layered .off q ↔ q.filter = .off ∧ ∀ i f, q.Found i f → f = .off := by
  refine ⟨fun h => ⟨?_, fun i f hf => ?_⟩, fun ⟨hfilter, hfound⟩ => ?_⟩
  · by_cases hsome : ∃ i, q.Alive i
    · exact hsome.elim h.silent
    · exact h.restored (not_exists.mp hsome)
  · by_cases hsome : ∃ j, j < i ∧ q.Alive j
    · obtain ⟨j, hj, halive⟩ := hsome
      exact h.others i j f hj halive hf
    · exact h.oldest i f hf fun j hj halive => hsome ⟨j, hj, halive⟩
  · exact ⟨⟨fun _ _ => hfilter, fun _ => hfilter⟩, fun i f hf _ => hfound i f hf,
      fun i _ f _ _ hf => hfound i f hf⟩

/-- Silence is all there is to put back in a log that was silent to begin with. -/
theorem Layered.release_off (h : Layered .off q) (i : Nat) : Layered .off (q.release i) := by
  by_cases halive : q.Alive i
  case neg => rwa [release_of_not_alive halive]
  obtain ⟨old, hold⟩ := halive
  obtain ⟨-, hfound⟩ := layered_off_iff.mp h
  refine layered_off_iff.mpr ⟨?_, fun j f hf => hfound j f (found_release.mp hf).2⟩
  rw [release_of_found hold]
  exact hfound i old hold

/-- **One use**: a log stays right unless the guard that goes is outlived. -/
theorem Layered.use (h : Layered level q) {u : Use}
    (hu : level = .off ∨ ∀ i, u = .release i → ¬ q.Outlived i) : Layered level (q.use u) := by
  cases u with
  | silence => exact h.silence
  | release i =>
      rcases hu with rfl | hu
      · exact h.release_off i
      · exact h.release (hu i rfl)

/-- When an outlived guard goes, the log is loud while another guard is alive. -/
theorem Layered.not_right_release (h : Layered level q) (hlevel : level ≠ .off)
    (hi : q.Outlived i) : ¬ Right level (q.release i) := by
  intro hright
  obtain ⟨old, hold⟩ := hi.alive
  obtain ⟨j, hij, hj⟩ := hi.another
  have hloud : (q.release i).filter = level :=
    (congrArg filter (release_of_found hold)).trans (h.oldest i old hold hi.oldest)
  have hsilent := hright.silent j (alive_release.mpr ⟨Nat.ne_of_lt hij, hj⟩)
  exact hlevel (hloud.symm.trans hsilent)

/-! ## Uses in order -/

theorem Layered.foldl (h : Layered level q) {uses : List Use}
    (hsafe : level = .off ∨
      ∀ past i, past ++ [.release i] <+: uses → ¬ (past.foldl QuietLog.use q).Outlived i) :
    Layered level (uses.foldl QuietLog.use q) := by
  induction uses generalizing q with
  | nil => exact h
  | cons u uses ih =>
      refine ih (h.use (hsafe.imp_right fun hsafe i hu => ?_))
        (hsafe.imp_right fun hsafe past i hpast => ?_)
      · exact hsafe [] i (List.cons_prefix_cons.mpr ⟨hu.symm, List.nil_prefix⟩)
      · exact hsafe (u :: past) i (List.cons_prefix_cons.mpr ⟨rfl, hpast⟩)

/-- A log that was right all the time is layered. -/
theorem Layered.foldl_of_right (h : Layered level q) (hlevel : level ≠ .off) {uses : List Use}
    (hright : ∀ past, past <+: uses → Right level (past.foldl QuietLog.use q)) :
    Layered level (uses.foldl QuietLog.use q) := by
  induction uses generalizing q with
  | nil => exact h
  | cons u uses ih =>
      have hfirst : Right level (q.use u) :=
        hright [u] (List.cons_prefix_cons.mpr ⟨rfl, List.nil_prefix⟩)
      refine ih (h.use (.inr fun i hu hi => ?_)) fun past hpast => ?_
      · subst hu
        exact h.not_right_release hlevel hi hfirst
      · exact hright (u :: past) (List.cons_prefix_cons.mpr ⟨rfl, hpast⟩)

/-- **The log is off while a guard is alive, and as it was while none is, exactly if no guard is
released as the oldest of several**, or there is nothing to put back. -/
theorem right_throughout_iff (level : Filter) (uses : List Use) :
    (∀ past, past <+: uses → Right level (after level past)) ↔
      level = .off ∨
        ∀ past i, past ++ [.release i] <+: uses → ¬ (after level past).Outlived i := by
  refine ⟨fun hright => Classical.or_iff_not_imp_left.mpr fun hlevel past i hpast hi => ?_,
    fun hsafe past hpast => ?_⟩
  · have hbefore : Layered level (after level past) :=
      (layered_empty level).foldl_of_right hlevel fun earlier hearlier =>
        hright earlier ((hearlier.trans (List.prefix_append _ _)).trans hpast)
    have hafter : after level (past ++ [.release i]) = (after level past).release i :=
      List.foldl_append
    exact hbefore.not_right_release hlevel hi (hafter ▸ hright _ hpast)
  · refine ((layered_empty level).foldl ?_).toRight
    exact hsafe.imp_right fun hsafe earlier i hearlier =>
      hsafe earlier i (hearlier.trans hpast)

/-- The older of two guards is released first: the log is loud while the younger one is alive,
and silent for good after that. -/
theorem not_right_throughout :
    let uses : List Use := [.silence, .silence, .release 0, .release 1]
    let level : Filter := .upTo .trace
    ¬ Right level (after level (uses.take 3)) ∧ ¬ Right level (after level uses) := by
  refine ⟨fun h => ?_, fun h => ?_⟩
  · exact absurd (h.silent 1 ⟨.off, rfl⟩) (by decide)
  · have hnone (i : Nat) : ¬ (after (.upTo .trace) [.silence, .silence, .release 0,
        .release 1]).Alive i := by
      rintro ⟨f, hf⟩
      match i, hf with
      | 0, hf => cases hf
      | 1, hf => cases hf
      | _ + 2, hf => cases hf
    exact absurd (h.restored hnone) (by decide)

end NearField.Log.QuietLog
