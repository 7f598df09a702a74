import NearField.Arygon.Link
import NearField.Proofs.Frame.Reply
import NearField.Simulated.Line
import Mathlib.Data.List.Basic

/-!
# Replies from a serial line

The receiver of a serial link takes a reply off the line piece by piece: five bytes of header,
two of identifier and code, the parameters, two of trailer.  A link that hands out its bytes in
order, whatever the pieces, delivers the parameters of a whole reply (`Supplies.receive`).

Over a line in memory nothing else is delivered.  Each piece is read back as a factor of the unread
input (`yields_read`), so the pieces of a run are joined by `++`: `yields_receive` states that the
receiver succeeds exactly when the input begins with a whole reply, and that it leaves what stands
behind it.
-/

namespace NearField.Simulated.Line

/-- A read that is met takes a prefix of the input, watched or not. -/
theorem yields_receive {n : Nat} {t : Timeout} {watched : Bool} {w w' : Watched Line}
    {piece : Bytes} :
    (Line.receive n t watched).Yields w piece w' ↔
      n ≤ w.hardware.input.length ∧ w.hardware.input.take n = piece ∧
        { w with hardware := { w.hardware with input := w.hardware.input.drop n } } = w' := by
  unfold Line.receive
  simp only [Act.yields_bind, Act.yields_get, Act.yields_ite, Act.yields_set, Act.yields_pure]
  by_cases h : n ≤ w.hardware.input.length <;> simp [h]

end NearField.Simulated.Line

namespace NearField.Arygon.Link
open Simulated

variable {σ α β : Type}

/-! ## Failures -/

@[simp] theorem not_yields_fail {e : Error} {message : String} {x : α} {l l' : Link σ} :
    ¬ (fail e message : Op (Link σ) α).Yields l x l' := by
  simp [fail, Act.yields_bind]

theorem fail_bind (e : Error) (message : String) (f : α → Op (Link σ) β) :
    (fail e message >>= f) = fail e message := rfl

/-- A report on a failure has no part in a success. -/
theorem yields_reporting {message : String} {a : Op (Link σ) α} {x : α} {l l' : Link σ} :
    (reporting message a).Yields l x l' ↔ a.Yields l x l' := by
  simp only [reporting, Act.yields_bind, Act.yields_attempt]
  refine ⟨?_, ?_⟩
  · rintro ⟨r, l₁, ⟨hr, rfl⟩, h⟩
    cases r with
    | ok y =>
        obtain ⟨rfl, rfl⟩ := Act.yields_pure.mp h
        exact ⟨hr, rfl⟩
    | error e => exact absurd h not_yields_fail
  · rintro ⟨hr, rfl⟩
    exact ⟨.ok x, _, ⟨hr, rfl⟩, Act.yields_pure.mpr ⟨rfl, rfl⟩⟩

/-! ## The reply -/

/-- The five bytes that begin a reply with `n` parameters. -/
def header (n : Nat) : Bytes :=
  0x00 :: 0x00 :: 0xFF :: UInt8.ofNat (n + 2) :: [Checksum.lcs (UInt8.ofNat (n + 2))]

/-- What follows the header: identifier, code, parameters and trailer. -/
def content (command : UInt8) (params : Bytes) : Bytes :=
  Frame.chipTfi :: (command + 1) :: (params ++
    [Checksum.dcs (Frame.chipTfi :: (command + 1) :: params), Frame.postamble])

theorem encodeReply_eq_append (command : UInt8) (params : Bytes) :
    Frame.encodeReply command params = header params.length ++ content command params := rfl

/-- The header passes when it announces parameters that fit. -/
theorem yields_checkHeader [SerialPort σ] {capacity n : Nat} {t : Timeout} {bytes : Bytes}
    {l l' : Link σ} :
    (checkHeader capacity t bytes).Yields l n l' ↔
      bytes = header n ∧ n ≤ 253 ∧ n ≤ capacity ∧ l = l' := by
  unfold checkHeader
  split
  · rename_i len check
    simp only [Act.yields_ite, Act.yields_bind, not_yields_fail, Act.yields_pure, and_false,
      exists_false, false_or, Nat.not_lt]
    refine ⟨?_, ?_⟩
    · rintro ⟨-, -, hsum, hlen, hfit, rfl, rfl⟩
      rw [ne_eq, Decidable.not_not, Checksum.add_eq_256_iff] at hsum
      obtain ⟨rfl, -⟩ := hsum
      have hmax := len.toNat_lt
      have htwo : 2 ≤ len.toNat := Nat.not_lt.mp fun h => hlen (UInt8.lt_iff_toNat_lt.mpr h)
      refine ⟨?_, by omega, hfit, rfl⟩
      rw [header, Frame.replyLength_toNat htwo]
    · rintro ⟨he, hn, hfit, rfl⟩
      obtain ⟨rfl, rfl⟩ : len = UInt8.ofNat (n + 2) ∧ check = Checksum.lcs len := by
        simp only [header, List.cons.injEq] at he
        exact ⟨he.2.2.2.1, by rw [he.2.2.2.1]; exact he.2.2.2.2.1⟩
      have hlen := Frame.toNat_replyLength hn
      -- neither marker is the header of a reply: `01 FF` counts a single byte, and `FF FF` does
      -- not add up
      refine ⟨?_, ?_, ?_, ?_, by omega, by omega, rfl⟩
      · rintro ⟨h, -⟩
        rw [h] at hlen
        exact absurd hlen (by simp)
      · rintro ⟨h, h'⟩
        rw [h] at h'
        exact absurd h' (by decide)
      · rw [ne_eq, Decidable.not_not, Checksum.add_eq_256_iff]
        refine ⟨rfl, fun h => ?_⟩
        rw [h] at hlen
        exact absurd hlen (by simp)
      · rw [UInt8.lt_iff_toNat_lt, hlen]
        simp
  · rename_i hno
    refine ⟨fun h => ?_, ?_⟩
    · exact absurd h not_yields_fail
    · rintro ⟨rfl, -⟩
      exact absurd rfl (hno _ _)

/-! ## Bytes in order -/

section Supplies

variable [SerialPort σ] {P : Bytes → Link σ → Prop}

/-- Links of which `P s` holds hand out the bytes of `s` in order, in pieces of any length, whether
or not the signal is watched. -/
def Supplies (P : Bytes → Link σ → Prop) : Prop :=
  ∀ ⦃piece rest : Bytes⦄ ⦃l : Link σ⦄, P (piece ++ rest) l → ∀ (t : Timeout) (watched : Bool),
    ∃ l', (watching (SerialPort.receive piece.length t watched)).Yields l piece l' ∧ P rest l'

variable (h : Supplies P) {command : UInt8} {params rest : Bytes} {l : Link σ}
include h

theorem Supplies.piece {piece : Bytes} (hl : P (piece ++ rest) l) (what : String)
    (t : Timeout) : ∃ l', (readPiece what piece.length t).Yields l piece l' ∧ P rest l' := by
  obtain ⟨l', hread, hrest⟩ := h hl t false
  exact ⟨l', yields_reporting.mpr hread, hrest⟩

theorem Supplies.read {piece : Bytes} (hl : P (piece ++ rest) l) (t : Timeout) :
    ∃ l', (read piece.length t).Yields l piece l' ∧ P rest l' :=
  h hl t false

/-- What follows the header is read to the end of the frame. -/
theorem Supplies.readContent (hl : P (content command params ++ rest) l) (t : Timeout) :
    ∃ l', (Link.readContent params.length command t).Yields l params l' ∧ P rest l' := by
  let check := Checksum.dcs (Frame.chipTfi :: (command + 1) :: params)
  have hpieces : content command params ++ rest =
      [Frame.chipTfi, command + 1] ++ (params ++ ([check, Frame.postamble] ++ rest)) := by
    simp [content, check]
  rw [hpieces] at hl
  obtain ⟨l₁, hintro, hl₁⟩ := h.read hl t
  unfold Link.readContent
  simp only [readPiece, fail_bind, Act.yields_bind, Act.yields_ite, yields_reporting,
    not_yields_fail, and_false, false_or, Act.yields_pure, pure_bind]
  -- without parameters no piece is read for them
  by_cases hn : params.length = 0
  · obtain rfl := List.length_eq_zero_iff.mp hn
    have hl₁ : P ([check, Frame.postamble] ++ rest) l₁ := hl₁
    obtain ⟨l₂, htrailer, hl₂⟩ := h.read hl₁ t
    exact ⟨l₂, ⟨_, l₁, hintro, fun h => h rfl, fun h => h rfl, .inl ⟨hn, _, l₂, htrailer,
      fun h => h rfl, fun h => h rfl, rfl, rfl⟩⟩, hl₂⟩
  · obtain ⟨l₂, hparams, hl₂⟩ := h.read hl₁ t
    obtain ⟨l₃, htrailer, hl₃⟩ := h.read hl₂ t
    exact ⟨l₃, ⟨_, l₁, hintro, fun h => h rfl, fun h => h rfl, .inr ⟨hn, params, l₂, hparams, _, l₃,
      htrailer, fun h => h rfl, fun h => h rfl, rfl, rfl⟩⟩, hl₃⟩

/-- A receiver with room for the parameters of a whole reply delivers them. -/
theorem Supplies.receiveWith (hl : P (Frame.encodeReply command params ++ rest) l)
    (hmax : params.length ≤ 253) {capacity : Nat} (hcap : 1 ≤ capacity)
    (hfit : params.length ≤ capacity) (recovery : Op (Link σ) Unit) (t : Timeout) :
    ∃ l', (Link.receiveWith recovery capacity command t).Yields l params l' ∧ P rest l' := by
  rw [encodeReply_eq_append, List.append_assoc] at hl
  obtain ⟨l₁, hhead, hl₁⟩ := h hl t true
  obtain ⟨l₂, hcontent, hl₂⟩ := h.readContent hl₁ t
  refine ⟨l₂, ?_, hl₂⟩
  unfold Link.receiveWith
  rw [if_neg (Nat.one_le_iff_ne_zero.mp hcap)]
  refine Act.yields_bind.mpr ⟨_, l₁, Act.yields_attempt.mpr hhead, ?_⟩
  exact Act.yields_bind.mpr ⟨_, _, yields_checkHeader.mpr ⟨rfl, hmax, hfit, rfl⟩, hcontent⟩

theorem Supplies.receive (hl : P (Frame.encodeReply command params ++ rest) l)
    (hmax : params.length ≤ 253) {capacity : Nat} (hcap : 1 ≤ capacity)
    (hfit : params.length ≤ capacity) (t : Timeout) :
    ∃ l', (Link.receive capacity command t).Yields l params l' ∧ P rest l' := by
  -- the recoveries that are allowed matter after an abort only
  unfold Link.receive
  cases maxRecoveries with
  | zero => exact h.receiveWith hl hmax hcap hfit _ t
  | succ n => exact h.receiveWith hl hmax hcap hfit _ t

end Supplies

/-! ## Pieces of a line -/

variable {l l' : Link Line} {s : Bytes}

/-- The link with exactly these bytes to read on its line. -/
def holding (l : Link Line) (s : Bytes) : Link Line :=
  ⟨{ l.line with hardware := { l.line.hardware with input := s } }⟩

theorem yields_watching_receive {n : Nat} {t : Timeout} {watched : Bool} {piece : Bytes} :
    (watching (SerialPort.receive n t watched)).Yields (l.holding s) piece l' ↔
      piece.length = n ∧ ∃ rest, s = piece ++ rest ∧ l.holding rest = l' := by
  simp only [watching, Act.yields_zoom]
  refine ⟨?_, ?_⟩
  · rintro ⟨w, h, rfl⟩
    obtain ⟨hn, rfl, rfl⟩ := Line.yields_receive.mp h
    exact ⟨List.length_take_of_le hn, s.drop n, (List.take_append_drop n s).symm, rfl⟩
  · rintro ⟨rfl, rest, rfl, rfl⟩
    refine ⟨_, Line.yields_receive.mpr ⟨?_, ?_, rfl⟩, ?_⟩ <;> simp [holding]

/-- A line in memory hands out its input. -/
theorem supplies_holding (l : Link Line) : Supplies fun s l' => l.holding s = l' := by
  rintro piece rest _ rfl t watched
  exact ⟨_, yields_watching_receive.mpr ⟨rfl, rest, rfl, rfl⟩, rfl⟩

theorem yields_read {n : Nat} {t : Timeout} {piece : Bytes} :
    (read n t).Yields (l.holding s) piece l' ↔
      piece.length = n ∧ ∃ rest, s = piece ++ rest ∧ l.holding rest = l' :=
  yields_watching_receive

/-- A trailer that passes holds the checksum of the content and the postamble. -/
theorem eq_trailer_of_yields {expected : UInt8} {t : Timeout} {trailer : Bytes}
    (h : (read 2 t).Yields (l.holding s) trailer l') (hcheck : ¬ trailer.getD 0 0 ≠ expected)
    (hpost : ¬ trailer.getD 1 0 ≠ Frame.postamble) :
    ∃ rest, s = expected :: Frame.postamble :: rest ∧ l.holding rest = l' := by
  obtain ⟨hlen, rest, rfl, rfl⟩ := yields_read.mp h
  obtain ⟨check, post, rfl⟩ := List.length_eq_two.mp hlen
  obtain rfl : check = expected := Decidable.not_not.mp hcheck
  obtain rfl : post = Frame.postamble := Decidable.not_not.mp hpost
  exact ⟨rest, rfl, rfl⟩

/-- What follows the header is read to the end of the frame. -/
theorem yields_readContent {n : Nat} {command : UInt8} {t : Timeout} {params : Bytes} :
    (readContent n command t).Yields (l.holding s) params l' ↔
      params.length = n ∧ ∃ rest, s = content command params ++ rest ∧ l.holding rest = l' := by
  refine ⟨fun h => ?_, ?_⟩
  · unfold readContent at h
    simp only [readPiece, fail_bind, Act.yields_bind, Act.yields_ite, yields_reporting,
      not_yields_fail, and_false, false_or, Act.yields_pure, pure_bind] at h
    obtain ⟨intro, l₁, hintro, htfi, hcode, h⟩ := h
    -- each piece that was read is split off the input, from the front
    obtain ⟨hlen, rest₁, rfl, rfl⟩ := yields_read.mp hintro
    obtain ⟨tfi, code, rfl⟩ := List.length_eq_two.mp hlen
    obtain rfl : tfi = Frame.chipTfi := Decidable.not_not.mp htfi
    obtain rfl : code = command + 1 := Decidable.not_not.mp hcode
    rcases h with ⟨rfl, trailer, l₂, htrailer, hcheck, hpost, rfl, rfl⟩ |
      ⟨-, params', l₂, hparams, trailer, l₃, htrailer, hcheck, hpost, rfl, rfl⟩
    · obtain ⟨rest, rfl, hrest⟩ := eq_trailer_of_yields htrailer hcheck hpost
      exact ⟨rfl, rest, rfl, hrest⟩
    · obtain ⟨hn, rest₂, rfl, rfl⟩ := yields_read.mp hparams
      obtain ⟨rest, rfl, hrest⟩ := eq_trailer_of_yields htrailer hcheck hpost
      exact ⟨hn, rest, by simp [content], hrest⟩
  · rintro ⟨rfl, rest, rfl, rfl⟩
    obtain ⟨_, h, rfl⟩ := (supplies_holding l).readContent rfl t
    exact h

/-- After an abort nothing is received, whatever the recovery does. -/
theorem not_yields_aborted {recovery : Op (Link Line) Unit} {x : Bytes} {l l' : Link Line} :
    ¬ (do
        if let .error e ← (recovery.attempt : Op (Link Line) _) then
          Act.log .debug Log.arygonTopic ("Chip did not recover after abort: " ++ e.text)
        throw .operationAborted : Op (Link Line) Bytes).Yields l x l' := by
  intro h
  obtain ⟨r, l₁, -, h⟩ := Act.yields_bind.mp h
  cases r with
  | ok u => exact absurd h Act.not_yields_throw
  | error e =>
      obtain ⟨-, l₂, -, h⟩ := Act.yields_bind.mp h
      exact absurd h Act.not_yields_throw

/-- **The receiver of a serial link** succeeds exactly when the input begins with a whole reply
whose parameters fit, and takes that reply off the line. -/
theorem yields_receiveWith {recovery : Op (Link Line) Unit} {capacity : Nat} {command : UInt8}
    {t : Timeout} {params : Bytes} (hcap : 1 ≤ capacity) :
    (receiveWith recovery capacity command t).Yields (l.holding s) params l' ↔
      params.length ≤ 253 ∧ params.length ≤ capacity ∧
        ∃ rest, s = Frame.encodeReply command params ++ rest ∧ l.holding rest = l' := by
  refine ⟨fun h => ?_, ?_⟩
  · unfold receiveWith at h
    rw [if_neg (Nat.one_le_iff_ne_zero.mp hcap)] at h
    obtain ⟨r, l₁, hr, h⟩ := Act.yields_bind.mp h
    cases r with
    | error e =>
        -- a wait that failed ends in a failure, also behind a recovery
        by_cases he : e = .operationAborted
        · subst he
          exact absurd h not_yields_aborted
        · cases e <;> first | exact absurd rfl he | exact absurd h not_yields_fail
    | ok bytes =>
        obtain ⟨-, rest₁, rfl, rfl⟩ := yields_watching_receive.mp (Act.yields_attempt.mp hr)
        obtain ⟨n, l₂, hn, h⟩ := Act.yields_bind.mp h
        obtain ⟨rfl, hmax, hfit, rfl⟩ := yields_checkHeader.mp hn
        obtain ⟨rfl, rest, rfl, rfl⟩ := yields_readContent.mp h
        exact ⟨hmax, hfit, rest, by rw [encodeReply_eq_append, List.append_assoc], rfl⟩
  · rintro ⟨hmax, hfit, rest, rfl, rfl⟩
    obtain ⟨_, h, rfl⟩ := (supplies_holding l).receiveWith rfl hmax hcap hfit recovery t
    exact h

theorem yields_receive {capacity : Nat} {command : UInt8} {t : Timeout} {params : Bytes}
    (hcap : 1 ≤ capacity) :
    (receive capacity command t).Yields (l.holding s) params l' ↔
      params.length ≤ 253 ∧ params.length ≤ capacity ∧
        ∃ rest, s = Frame.encodeReply command params ++ rest ∧ l.holding rest = l' := by
  -- The recoveries that are allowed matter after an abort only.
  unfold receive
  cases maxRecoveries with
  | zero => exact yields_receiveWith hcap
  | succ n => exact yields_receiveWith hcap

end NearField.Arygon.Link
