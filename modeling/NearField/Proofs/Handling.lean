import NearField.Proofs.Device.Calling
import NearField.Proofs.Noted

/-!
# What becomes of a reader

A reader that a driver handed out can be numbered (`Numbered`).  What happens to it is then noted:
that it is handed out, every operation that is called on it, and that it is closed.  `Kept held
notes` says what the notes have to show while the readers in `held` are in somebody's hands: each of
them was handed out and used since, and any other was closed once, after all that.  Handing out,
using and closing a reader keep the notes in order (`Kept.hand`, `Kept.use`, `Kept.close`), and so
do the calls of a device, which end as they do without notes (`Numbered.callAlike`).
-/

namespace NearField

/-- What happens to a reader that a driver handed out, which is known by its number. -/
inductive Handling where
  | handed (number : Nat)
  /-- An operation other than closing is called. -/
  | used (number : Nat)
  | closed (number : Nat)
  deriving DecidableEq, Repr

namespace Handling

/-- The reader to which it happens. -/
def number : Handling → Nat
  | handed number | used number | closed number => number

/-- What happened to one reader. -/
def tale (number : Nat) (notes : List Handling) : List Handling :=
  notes.filter fun x => x.number = number

/-- A reader was handed out, and nothing but used since. -/
def InUse (number : Nat) (notes : List Handling) : Prop :=
  ∃ uses, tale number notes = .handed number :: List.replicate uses (.used number)

/-- A reader was handed out, used, and then closed once; nothing happened to it after that. -/
def ClosedOnce (number : Nat) (notes : List Handling) : Prop :=
  ∃ uses, tale number notes =
    .handed number :: (List.replicate uses (.used number) ++ [.closed number])

/-- The notes are in order while the readers in `held` are in somebody's hands. -/
structure Kept (held : List Nat) (notes : List Handling) : Prop where
  /-- Numbers are given in order. -/
  bound : ∀ x ∈ notes, x.number < notes.length
  nodup : held.Nodup
  inUse : ∀ number ∈ held, InUse number notes
  gone : ∀ number, number ∉ held → tale number notes = [] ∨ ClosedOnce number notes

variable {number : Nat} {held held' : List Nat} {notes : List Handling} {x : Handling}

theorem tale_note (x : Handling) (notes : List Handling) :
    tale x.number (notes ++ [x]) = tale x.number notes ++ [x] := by
  simp [tale]

theorem tale_note_of_ne (h : x.number ≠ number) (notes : List Handling) :
    tale number (notes ++ [x]) = tale number notes := by
  simp [tale, h]

/-- A reader that is handed out has a tale from then on. -/
theorem inUse_handed (h : tale number notes = []) : InUse number (notes ++ [.handed number]) := by
  have htale := tale_note (.handed number) notes
  rw [Handling.number, h] at htale
  exact ⟨0, htale⟩

theorem InUse.use (h : InUse number notes) : InUse number (notes ++ [.used number]) := by
  obtain ⟨uses, huses⟩ := h
  refine ⟨uses + 1, (tale_note (.used number) notes).trans ?_⟩
  rw [Handling.number, huses, List.replicate_succ', List.cons_append]

theorem InUse.close (h : InUse number notes) : ClosedOnce number (notes ++ [.closed number]) := by
  obtain ⟨uses, huses⟩ := h
  refine ⟨uses, (tale_note (.closed number) notes).trans ?_⟩
  rw [Handling.number, huses, List.cons_append]

theorem kept_nil : Kept [] [] where
  bound := nofun
  nodup := .nil
  inUse := nofun
  gone _ _ := .inl rfl

theorem Kept.perm (h : Kept held notes) (hperm : held.Perm held') : Kept held' notes where
  bound := h.bound
  nodup := hperm.nodup h.nodup
  inUse number hnumber := h.inUse number (hperm.mem_iff.mpr hnumber)
  gone number hnumber := h.gone number (mt hperm.mem_iff.mp hnumber)

/-- A note leaves the notes in order if it leaves the tale of its own reader in order. -/
theorem Kept.note (h : Kept held notes) (hx : x.number ≤ notes.length) (hnodup : held'.Nodup)
    (hsame : ∀ number, x.number ≠ number → (number ∈ held' ↔ number ∈ held))
    (hin : x.number ∈ held' → InUse x.number (notes ++ [x]))
    (hout : x.number ∉ held' → ClosedOnce x.number (notes ++ [x])) :
    Kept held' (notes ++ [x]) where
  bound y hy := by
    rw [List.length_append, List.length_singleton]
    rcases List.mem_append.mp hy with hy | hy
    · exact Nat.lt_succ_of_lt (h.bound y hy)
    · obtain rfl := List.mem_singleton.mp hy
      exact Nat.lt_succ_of_le hx
  nodup := hnodup
  inUse number hnumber := by
    -- a note is about one reader, and the tales of the others stay
    by_cases hne : x.number = number
    · subst hne
      exact hin hnumber
    · rw [InUse, tale_note_of_ne hne]
      exact h.inUse number ((hsame number hne).mp hnumber)
  gone number hnumber := by
    by_cases hne : x.number = number
    · subst hne
      exact .inr (hout hnumber)
    · rw [ClosedOnce, tale_note_of_ne hne]
      exact h.gone number (mt (hsame number hne).mpr hnumber)

/-- A reader that somebody holds has its place in the notes. -/
theorem Kept.lt_length (h : Kept held notes) (hnumber : number ∈ held) :
    number < notes.length := by
  obtain ⟨uses, huses⟩ := h.inUse number hnumber
  have hmem : Handling.handed number ∈ tale number notes := huses ▸ List.mem_cons_self
  exact h.bound _ (List.mem_filter.mp hmem).1

/-- A reader that is handed out is in somebody's hands. -/
theorem Kept.hand (h : Kept held notes) :
    Kept (notes.length :: held) (notes ++ [.handed notes.length]) := by
  have hnew : notes.length ∉ held := fun hmem => Nat.lt_irrefl _ (h.lt_length hmem)
  have htale : tale notes.length notes = [] :=
    List.filter_eq_nil_iff.mpr fun x hx => by simpa using Nat.ne_of_lt (h.bound x hx)
  exact h.note (Nat.le_refl _) (List.nodup_cons.mpr ⟨hnew, h.nodup⟩)
    (fun _ hne => List.mem_cons.trans (or_iff_right (Ne.symm hne))) (fun _ => inUse_handed htale)
    fun hout => absurd List.mem_cons_self hout

/-- A reader that somebody holds may be used. -/
theorem Kept.use (h : Kept held notes) (hnumber : number ∈ held) :
    Kept held (notes ++ [.used number]) :=
  h.note (Nat.le_of_lt (h.lt_length hnumber)) h.nodup (fun _ _ => Iff.rfl)
    (fun _ => (h.inUse number hnumber).use) fun hout => absurd hnumber hout

/-- A reader that is closed is in nobody's hands any more. -/
theorem Kept.close (h : Kept (number :: held) notes) : Kept held (notes ++ [.closed number]) := by
  obtain ⟨hout, hnodup⟩ := List.nodup_cons.mp h.nodup
  exact h.note (Nat.le_of_lt (h.lt_length List.mem_cons_self)) hnodup
    (fun _ hne => (List.mem_cons.trans (or_iff_right (Ne.symm hne))).symm)
    (fun hin => absurd hin hout) fun _ => (h.inUse number List.mem_cons_self).close

/-- What is noted about and in nobody's hands was closed. -/
theorem Kept.closedOnce (h : Kept held notes) (hx : x ∈ notes) (hout : x.number ∉ held) :
    ClosedOnce x.number notes := by
  refine (h.gone x.number hout).resolve_left fun hnone => ?_
  exact List.filter_eq_nil_iff.mp hnone x hx (decide_eq_true rfl)

end Handling

/-- The handle of a reader, with its number. -/
structure Numbered (δ : Type) where
  number : Nat
  handle : δ

open Handling

variable {ω δ : Type}

namespace Numbered

/-- The reader of the world itself; a call of it is noted. -/
def reader [Reader (ω × δ)] (x : Nat → Handling) (s : Noted Handling ω × Numbered δ) :
    InnerReader (Noted Handling ω × Numbered δ) where
  Inner := ω × δ
  inner := (s.1.world, s.2.handle)
  put p := (⟨p.1, s.1.notes ++ [x s.2.number]⟩, ⟨s.2.number, p.2⟩)

instance [Reader (ω × δ)] : Reader (Noted Handling ω × Numbered δ) :=
  { Reader.ofInner (reader .used) with
    close := InnerReader.run (reader .closed) fun _ => Reader.close }

/-- The reader of this number is this one, and the notes are in order. -/
def Around (held : List Nat) (number : Nat) (s : Noted Handling ω × Numbered δ) (p : ω × δ) :
    Prop :=
  s.2.number = number ∧ Kept held s.1.notes ∧ (s.1.world, s.2.handle) = p

variable {held : List Nat} {number : Nat} [Reader (ω × δ)]

/-- Calls of a reader that somebody holds end as they do without notes, and keep them in order. -/
theorem callAlike (h : number ∈ held) :
    Device.CallAlike (Around (ω := ω) (δ := δ) held number) where
  call c := by
    have hrun {α : Type} (a : (τ : Type) → [Reader τ] → Op τ α) :
        Act.Simulates (Around (ω := ω) (δ := δ) held number) (InnerReader.run (reader .used) a)
          (a (ω × δ)) := by
      rintro ⟨n, r⟩ _ ⟨rfl, hkept, rfl⟩
      exact ⟨rfl, rfl, hkept.use h, rfl⟩
    cases c with
    | targetInit target capacity timeout =>
        rintro ⟨n, r⟩ _ ⟨rfl, hkept, rfl⟩
        exact ⟨rfl, rfl, hkept.use h, rfl⟩
    | _ => exact hrun _
  clock := by
    rintro ⟨n, r⟩ _ ⟨-, -, rfl⟩
    rfl

end Numbered

end NearField
