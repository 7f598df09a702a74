import NearField.Pcsc.Feitian
import NearField.Proofs.Act
import NearField.Proofs.BoundedCopy

/-!
# Recoded commands

What a Feitian reader is given for a command is settled by the command alone: `recoded` says which
command of the reader it becomes, which other one goes ahead of it to load a key, and which commands
are refused.  Recoding runs as giving the reader what `recoded` says (`route_eq`), with the reader's
own room for each reply; only the reply to the last command is measured against the caller's room.
-/

namespace NearField.Pcsc.Feitian

variable {σ : Type}

/-- The command that loads the key behind opcode and block. -/
def keyCommand (tx : Bytes) : Bytes := [0xFF, 0x82, 0x00, 0x01, 0x06] ++ (tx.take 8).drop 2

/-- What a command is recoded to, behind what goes ahead of it. -/
def recoded (tx : Bytes) : Except Error (Option Bytes × Bytes) :=
  match tx with
  | [] => .error .invalidArgument
  | command :: args =>
    if command = 0x30 then
      match args with
      | block :: _ => .ok (none, [0xFF, 0xB0, 0x00, block, 0x10])
      | [] => .error .invalidArgument
    else if command = 0xA0 ∨ command = 0xA2 then
      match args with
      | block :: data =>
        if data.length ≤ maxPayload then
          .ok (none, 0xFF :: 0xD6 :: 0x00 :: block :: UInt8.ofNat data.length :: data)
        else .error .chip
      | [] => .error .invalidArgument
    else if command = 0x60 ∨ command = 0x61 ∨ command = 0x1A then
      if 8 ≤ tx.length then
        .ok (some (keyCommand tx),
          [0xFF, 0x86, 0x00, 0x00, 0x05, 0x01, 0x00, tx.getD 1 0, command, 0x01])
      else .error .invalidArgument
    else if command = 0xC0 ∨ command = 0xC1 ∨ command = 0xC2 then
      match args with
      | block :: payload =>
        if payload.length ≤ maxPayload then
          let (ins, lc) :=
            if command = 0xC2 then (0xD8, UInt8.ofNat payload.length) else (0xD7, 0x05)
          .ok (none, 0xFF :: ins :: 0x00 :: block :: lc :: payload)
        else .error .chip
      | [] => .error .invalidArgument
    else if tx.length ≤ maxPassThrough then .ok (none, tx)
    else .error .chip

/-- Gives the reader what goes ahead, and wipes it and its reply. -/
def goAhead (exchange : Exchange σ) : Option Bytes → Op σ Unit
  | none => pure ()
  | some load => do
    let loaded ← (exchange load responseCapacity).attempt
    BoundedCopy.wipeOp load
    let reply ← Act.ofExcept loaded
    if !reply.isEmpty then BoundedCopy.wipeOp reply

/-- A key goes ahead of what follows it, and is wiped whether it was taken or not. -/
theorem goAhead_some_bind {α : Type} (exchange : Exchange σ) (load : Bytes) (f : Unit → Op σ α) :
    goAhead exchange (some load) >>= f = (do
      let loaded ← (exchange load responseCapacity).attempt
      BoundedCopy.wipeOp load
      let reply ← Act.ofExcept loaded
      if !reply.isEmpty then BoundedCopy.wipeOp reply
      f ()) := by
  rw [goAhead, bind_assoc]
  refine bind_congr fun loaded => ?_
  rw [bind_assoc]
  refine bind_congr fun _ => ?_
  rw [bind_assoc]
  refine bind_congr fun reply => ?_
  cases reply with
  | nil => rfl
  | cons first rest => rfl

theorem require_bind {α : Type} {p : Prop} [Decidable p] (e : Error) (f : Unit → Op σ α) :
    (Act.require p e >>= f) = if p then f () else throw e := by
  simp only [Act.require_bind, decide_eq_true_eq]

/-- The key is copied whole. -/
theorem copy_key {tx : Bytes} (h : 8 ≤ tx.length) :
    BoundedCopy.copy (List.replicate 6 0) ((tx.take 8).drop 2) 6 = .ok ((tx.take 8).drop 2) := by
  have hlen : ((tx.take 8).drop 2).length = 6 := by
    rw [List.length_drop, List.length_take]
    omega
  have hmax : ((tx.take 8).drop 2).length ≤ BoundedCopy.maxSize := by
    rw [hlen]
    decide
  have hwhole := BoundedCopy.copy_whole (List.length_replicate (a := (0 : UInt8))) hmax
  rwa [hlen] at hwhole

/-- A command that is long enough has a key to load. -/
theorem loadKey_eq {tx : Bytes} (h : 8 ≤ tx.length) :
    (loadKey tx : Op σ Bytes) = pure (keyCommand tx) := by
  rw [loadKey, BoundedCopy.copyOp_of_copy (copy_key h), pure_bind]
  rfl

/-- **Recoding a command is giving the reader what it is recoded to**, over any way to exchange the
reader's own commands. -/
theorem route_eq (exchange : Exchange σ) (tx : Bytes) (capacity : Nat) :
    route exchange tx capacity = (do
      let p ← Act.ofExcept (recoded tx)
      goAhead exchange p.1
      execute exchange p.2 capacity) := by
  have hrefused {e : Error} : (throw e : Op σ Bytes) = (do
      let p ← Act.ofExcept (.error e : Except Error (Option Bytes × Bytes))
      goAhead exchange p.1
      execute exchange p.2 capacity) := rfl
  have hgiven (apdu : Bytes) : execute exchange apdu capacity = (do
      let p ← Act.ofExcept (.ok (none, apdu) : Except Error (Option Bytes × Bytes))
      goAhead exchange p.1
      execute exchange p.2 capacity) := rfl
  -- both look at the opcode first, in the same order, and then at the length
  unfold route recoded
  cases tx with
  | nil => rfl
  | cons command args =>
      simp only
      by_cases hread : command = 0x30
      · rw [if_pos hread, if_pos hread]
        cases args with
        | nil => exact hrefused
        | cons block rest => exact hgiven _
      rw [if_neg hread, if_neg hread]
      by_cases hwrite : command = 0xA0 ∨ command = 0xA2
      · rw [if_pos hwrite, if_pos hwrite]
        cases args with
        | nil => exact hrefused
        | cons block data =>
            rw [write, require_bind]
            by_cases hroom : data.length ≤ maxPayload
            · simp only [if_pos hroom]
              exact hgiven _
            · simp only [if_neg hroom]
              exact hrefused
      rw [if_neg hwrite, if_neg hwrite]
      by_cases hkey : command = 0x60 ∨ command = 0x61 ∨ command = 0x1A
      · rw [if_pos hkey, if_pos hkey, authenticate, require_bind]
        by_cases hlen : 8 ≤ (command :: args).length
        · rw [if_pos hlen, if_pos hlen, loadKey_eq hlen, pure_bind]
          exact (goAhead_some_bind exchange _ fun _ => execute exchange _ capacity).symm
        · rw [if_neg hlen, if_neg hlen]
          exact hrefused
      rw [if_neg hkey, if_neg hkey]
      by_cases hvalue : command = 0xC0 ∨ command = 0xC1 ∨ command = 0xC2
      · rw [if_pos hvalue, if_pos hvalue]
        cases args with
        | nil => exact hrefused
        | cons block payload =>
            rw [valueOperation, require_bind]
            by_cases hroom : payload.length ≤ maxPayload
            · simp only [if_pos hroom]
              exact hgiven _
            · simp only [if_neg hroom]
              exact hrefused
      rw [if_neg hvalue, if_neg hvalue, passThrough, require_bind]
      by_cases hlen : (command :: args).length ≤ maxPassThrough
      · rw [if_pos hlen, if_pos hlen]
        exact hgiven _
      · rw [if_neg hlen, if_neg hlen]
        exact hrefused

end NearField.Pcsc.Feitian
