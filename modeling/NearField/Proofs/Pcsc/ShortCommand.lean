import NearField.Proofs.Pcsc.Routing

/-!
# Lengths in commands of a reader

A command of a reader that comes with data says how many bytes they are (`WellFormed`).  What a
Feitian reader is given for a recoded command says so rightly, but for two value operations.  They
announce five bytes whatever there are, so they are right exactly for a payload of five bytes
(`wellFormed_rounds_iff`).
-/

namespace NearField.Pcsc.Feitian

open Simulated

variable {σ : Type}

/-- The instructions of a reader that come with data. -/
def withData : List UInt8 := [0xD6, 0x82, 0x86, 0xD7, 0xD8]

/-- A short command of a reader is a class, an instruction, two parameters and a byte that counts
the data behind it.  Where an instruction comes without data the byte counts what is asked for. -/
def WellFormed : Bytes → Prop
  | _ :: instruction :: _ :: _ :: count :: data =>
    if instruction ∈ withData then count.toNat = data.length else data = []
  | _ => False

/-- A value operation that announces five bytes, with a payload that fits but is not of five. -/
def Miscounted : Bytes → Prop
  | opcode :: _ :: payload =>
    opcode ∈ valueOperations ∧ opcode ≠ 0xC2 ∧ payload.length ≤ maxPayload ∧ payload.length ≠ 5
  | _ => False

theorem Miscounted.refusal?_eq_none {tx : Bytes} (h : Miscounted tx) : refusal? tx = none := by
  rcases tx with _ | ⟨opcode, _ | ⟨block, payload⟩⟩
  · exact h.elim
  · exact h.elim
  · obtain ⟨hvalue, hother, hroom, -⟩ := h
    exact (Recodes.change hvalue hother block hroom).refusal?_eq_none

theorem not_mem_valueOperations :
    ∀ opcode ∈ 0x30 :: (writes ++ authentications), opcode ∉ valueOperations := by
  decide +kernel

/-- All other commands count what they carry. -/
theorem not_miscounted {opcode : UInt8}
    (h : opcode ∈ 0x30 :: (writes ++ authentications) ∨ opcode = 0xC2) (args : Bytes) :
    ¬ Miscounted (opcode :: args) := by
  cases args with
  | nil => exact id
  | cons block payload =>
    rintro ⟨hvalue, hother, -⟩
    rcases h with h | h
    · exact not_mem_valueOperations opcode h hvalue
    · exact hother h

/-- A payload that is counted is counted rightly: its length fits into the byte. -/
theorem wellFormed_counted {instruction block : UInt8} {payload : Bytes}
    (hdata : instruction ∈ withData) (hroom : payload.length ≤ maxPayload) :
    WellFormed (0xFF :: instruction :: 0x00 :: block :: UInt8.ofNat payload.length :: payload) := by
  rw [WellFormed, if_pos hdata]
  exact UInt8.toNat_ofNat_of_lt' (Nat.lt_of_le_of_lt hroom (by decide))

/-- What announces five bytes is right for five bytes. -/
theorem wellFormed_announcing {block : UInt8} {payload : Bytes} :
    WellFormed (0xFF :: 0xD7 :: 0x00 :: block :: 0x05 :: payload) ↔ payload.length = 5 := by
  rw [WellFormed, if_pos (by decide)]
  exact eq_comm

theorem wellFormed_loadCommand {key : Bytes} (h : key.length = 6) :
    WellFormed (loadCommand key) := by
  rw [loadCommand, WellFormed, if_pos (by decide), h]
  rfl

theorem wellFormed_authenticateCommand (opcode block : UInt8) :
    WellFormed (authenticateCommand opcode block) := by
  rw [authenticateCommand, WellFormed, if_pos (by decide)]
  rfl

theorem Ran.wellFormed_iff {capacity : Nat} {tx : Bytes} {p : Except Error (Option Bytes × Bytes)}
    {rounds : List Round} {result : Except Error Bytes} (hran : Ran capacity p rounds result)
    (hrecodes : Recodes tx p) (hopcode : ∀ opcode ∈ tx.head?, opcode ∈ opcodes) :
    (∀ round ∈ rounds, WellFormed round.apdu) ↔ ¬ Miscounted tx := by
  -- the length byte is counted in every case but that of `change`, where it is fixed
  cases hrecodes with
  | refused hrefusal =>
    cases hran
    refine iff_of_true nofun fun h => ?_
    rw [h.refusal?_eq_none] at hrefusal
    cases hrefusal
  | read block args =>
    cases hran
    exact iff_of_true (List.forall_mem_singleton.mpr rfl) (not_miscounted (.inl (by decide)) _)
  | write hwrite block hroom =>
    cases hran
    have hcounts := List.mem_cons_of_mem 0x30 (List.mem_append_left authentications hwrite)
    refine iff_of_true (List.forall_mem_singleton.mpr ?_) (not_miscounted (.inl hcounts) _)
    exact wellFormed_counted (by decide) hroom
  | authenticate hkeyed block hkey =>
    have hcounts := List.mem_cons_of_mem 0x30 (List.mem_append_right writes hkeyed)
    have hload := wellFormed_loadCommand (List.length_take_of_le hkey)
    have huse := wellFormed_authenticateCommand
    refine iff_of_true ?_ (not_miscounted (.inl hcounts) _)
    cases hran with
    | notLoaded | notWiped => exact List.forall_mem_singleton.mpr hload
    | loaded => exact List.forall_mem_cons.mpr ⟨hload, List.forall_mem_singleton.mpr (huse _ _)⟩
  | change hvalue hother block hroom =>
    cases hran
    rw [List.forall_mem_singleton, wellFormed_announcing]
    refine ⟨fun hlength hmiscounted => hmiscounted.2.2.2 hlength, fun h => ?_⟩
    exact Decidable.byContradiction fun hlength => h ⟨hvalue, hother, hroom, hlength⟩
  | store block hroom =>
    cases hran
    refine iff_of_true (List.forall_mem_singleton.mpr ?_) (not_miscounted (.inr rfl) _)
    exact wellFormed_counted (by decide) hroom
  | plain hplain hroom => exact absurd (hopcode _ rfl) hplain

variable (exchange : Exchange σ) (capacity : Nat) (w : σ)

/-- **What a reader is given says rightly how long its data are**, exactly if the command is not
one of the two value operations that announce five bytes with a payload of another length. -/
theorem wellFormed_rounds_iff {opcode : UInt8} {args : Bytes} (h : opcode ∈ opcodes) :
    (∀ round ∈ rounds exchange (opcode :: args) capacity w, WellFormed round.apdu) ↔
      ¬ Miscounted (opcode :: args) :=
  (ran_route exchange (opcode :: args) capacity w).wellFormed_iff (recodes _) (by simpa using h)

/-- A block is written, and the four bytes that go into it are counted. -/
theorem wellFormed_rounds_write :
    let tx : Bytes := [0xA2, 0x05, 0x01, 0x02, 0x03, 0x04]
    let rs := rounds ApduScript.exchange tx 64 {}
    rs = [⟨[0xFF, 0xD6, 0x00, 0x05, 0x04, 0x01, 0x02, 0x03, 0x04], 258, .ok [0x90, 0x00]⟩] ∧
      0xA2 ∈ opcodes ∧ ((∀ round ∈ rs, WellFormed round.apdu) ↔ ¬ Miscounted tx) ∧
      ∀ round ∈ rs, WellFormed round.apdu := by
  intro tx rs
  have hopcode : 0xA2 ∈ opcodes := by decide
  have hiff : (∀ round ∈ rs, WellFormed round.apdu) ↔ ¬ Miscounted tx :=
    wellFormed_rounds_iff ApduScript.exchange 64 {} hopcode
  exact ⟨rfl, hopcode, hiff, hiff.mpr (not_miscounted (.inl (by decide)) _)⟩

/-- An increment comes with four bytes and announces five. -/
theorem increment_not_wellFormed :
    ¬ ∀ round ∈ rounds ApduScript.exchange [0xC1, 0x08, 0x01, 0x00, 0x00, 0x00] 64 {},
      WellFormed round.apdu := by
  have hrounds : rounds ApduScript.exchange [0xC1, 0x08, 0x01, 0x00, 0x00, 0x00] 64 {} =
      [⟨[0xFF, 0xD7, 0x00, 0x08, 0x05, 0x01, 0x00, 0x00, 0x00], 258, .ok [0x90, 0x00]⟩] := rfl
  rw [hrounds, List.forall_mem_singleton, wellFormed_announcing]
  decide

end NearField.Pcsc.Feitian
