import NearField.Proofs.Pcsc.Recoding

/-!
# Opcodes

Of the commands that a Feitian reader is to exchange, those with one of nine opcodes are recoded,
and all others go through.  An opcode sets limits to the length of a command, and a command is
refused exactly for its length (`recoded_eq_error_iff`).  What becomes of all others is laid down
case by case in `Recodes`, and there are no more cases (`recodes`).
-/

namespace NearField.Pcsc.Feitian

/-! ## Families and limits -/

/-- The opcodes that write a block. -/
def writes : List UInt8 := [0xA0, 0xA2]

/-- The opcodes that authenticate a block with a key. -/
def authentications : List UInt8 := [0x60, 0x61, 0x1A]

/-- The opcodes that change the value in a block. -/
def valueOperations : List UInt8 := [0xC0, 0xC1, 0xC2]

/-- The opcodes of the commands that are recoded: one reads a block. -/
def opcodes : List UInt8 := 0x30 :: (writes ++ authentications ++ valueOperations)

/-- The fewest and the most bytes of a command, the latter where there is a limit. -/
def limits (command : UInt8) : Nat × Option Nat :=
  if command ∈ authentications then (8, none)
  else if command ∈ writes ++ valueOperations then (2, some (2 + maxPayload))
  else if command ∈ opcodes then (2, none)
  else (1, some maxPassThrough)

/-- Why a command is refused for its length. -/
def refusal? : Bytes → Option Error
  | [] => some .invalidArgument
  | command :: args =>
    let length := (command :: args).length
    if length < (limits command).1 then some .invalidArgument
    else if (limits command).2.any (· < length) then some .chip
    else none

/-- The command that loads a key. -/
def loadCommand (key : Bytes) : Bytes := 0xFF :: 0x82 :: 0x00 :: 0x01 :: 0x06 :: key

/-- The command that authenticates a block with the key that is loaded. -/
def authenticateCommand (opcode block : UInt8) : Bytes :=
  [0xFF, 0x86, 0x00, 0x00, 0x05, 0x01, 0x00, block, opcode, 0x01]

/-- What a command becomes, case by case. -/
inductive Recodes : Bytes → Except Error (Option Bytes × Bytes) → Prop where
  | refused {tx : Bytes} {e : Error} (h : refusal? tx = some e) : Recodes tx (.error e)
  | read (block : UInt8) (args : Bytes) :
      Recodes (0x30 :: block :: args) (.ok (none, [0xFF, 0xB0, 0x00, block, 0x10]))
  | write {command : UInt8} (h : command ∈ writes) (block : UInt8) {data : Bytes}
      (hroom : data.length ≤ maxPayload) :
      Recodes (command :: block :: data)
        (.ok (none, 0xFF :: 0xD6 :: 0x00 :: block :: UInt8.ofNat data.length :: data))
  | authenticate {command : UInt8} (h : command ∈ authentications) (block : UInt8) {args : Bytes}
      (hkey : 6 ≤ args.length) :
      Recodes (command :: block :: args)
        (.ok (some (loadCommand (args.take 6)), authenticateCommand command block))
  | change {command : UInt8} (h : command ∈ valueOperations) (hother : command ≠ 0xC2)
      (block : UInt8) {payload : Bytes} (hroom : payload.length ≤ maxPayload) :
      Recodes (command :: block :: payload)
        (.ok (none, 0xFF :: 0xD7 :: 0x00 :: block :: 0x05 :: payload))
  | store (block : UInt8) {payload : Bytes} (hroom : payload.length ≤ maxPayload) :
      Recodes (0xC2 :: block :: payload)
        (.ok (none, 0xFF :: 0xD8 :: 0x00 :: block :: UInt8.ofNat payload.length :: payload))
  | plain {command : UInt8} (h : command ∉ opcodes) {args : Bytes}
      (hroom : (command :: args).length ≤ maxPassThrough) :
      Recodes (command :: args) (.ok (none, command :: args))

/-- An opcode belongs to one group of those that are recoded, or to none. -/
theorem opcode_cases (command : UInt8) : command = 0x30 ∨ command ∈ writes ∨
    command ∈ authentications ∨ command ∈ valueOperations ∨ command ∉ opcodes := by
  by_cases h : command ∈ opcodes
  · simp only [opcodes, List.mem_cons, List.mem_append, or_assoc] at h
    grind
  · exact .inr (.inr (.inr (.inr h)))

/-- What hands a payload on is limited by the room for it. -/
theorem limits_of_payload : ∀ command ∈ writes ++ valueOperations,
    limits command = (2, some (2 + maxPayload)) := by
  decide +kernel

/-- An authentication needs a whole key, and may have more behind it. -/
theorem limits_of_mem_authentications : ∀ command ∈ authentications,
    limits command = (8, none) := by
  decide +kernel

/-- What is passed through as it is has a limit too. -/
theorem limits_of_not_mem {command : UInt8} (h : command ∉ opcodes) :
    limits command = (1, some maxPassThrough) := by
  simp only [opcodes, List.mem_cons, List.mem_append, not_or] at h
  simp [limits, opcodes, h]

/-- A payload that is too long is refused. -/
theorem refusal?_of_payload {command block : UInt8} {payload : Bytes}
    (h : command ∈ writes ++ valueOperations) (hlong : ¬ payload.length ≤ maxPayload) :
    refusal? (command :: block :: payload) = some .chip := by
  simp only [refusal?, limits_of_payload command h, List.length_cons, Option.any_some]
  rw [if_neg (by omega), if_pos (by simp; omega)]

/-- A write is refused for its length, or becomes one of the reader. -/
theorem recodes_write {command : UInt8} (h : command ∈ writes) (args : Bytes) :
    Recodes (command :: args) (recoded (command :: args)) := by
  have hopcode : command = 0xA0 ∨ command = 0xA2 := by simpa [writes] using h
  have hread : command ≠ 0x30 := by rcases hopcode with rfl | rfl <;> decide
  unfold recoded
  simp only [if_neg hread, if_pos hopcode]
  cases args with
  | nil =>
    refine .refused ?_
    simp [refusal?, limits_of_payload command (List.mem_append_left _ h)]
  | cons block data =>
    by_cases hroom : data.length ≤ maxPayload
    · simp only [if_pos hroom]
      exact .write h block hroom
    · simp only [if_neg hroom]
      exact .refused (refusal?_of_payload (List.mem_append_left _ h) hroom)

/-- An authentication is refused for want of a key, or becomes two commands of the reader. -/
theorem recodes_authenticate {command : UInt8} (h : command ∈ authentications) (args : Bytes) :
    Recodes (command :: args) (recoded (command :: args)) := by
  have hopcode : command = 0x60 ∨ command = 0x61 ∨ command = 0x1A := by
    simpa [authentications] using h
  have hread : command ≠ 0x30 := by rcases hopcode with rfl | rfl | rfl <;> decide
  have hwrite : ¬ (command = 0xA0 ∨ command = 0xA2) := by
    rcases hopcode with rfl | rfl | rfl <;> decide
  unfold recoded
  simp only [if_neg hread, if_neg hwrite, if_pos hopcode]
  by_cases hlen : 8 ≤ (command :: args).length
  · rw [if_pos hlen]
    cases args with
    | nil => simp at hlen
    | cons block rest => exact .authenticate h block (by simpa using hlen)
  · rw [if_neg hlen]
    refine .refused ?_
    simp only [refusal?, limits_of_mem_authentications command h]
    rw [if_pos (Nat.not_le.mp hlen)]

/-- A change of a value is refused for its length, or becomes one of the reader. -/
theorem recodes_value {command : UInt8} (h : command ∈ valueOperations) (args : Bytes) :
    Recodes (command :: args) (recoded (command :: args)) := by
  have hopcode : command = 0xC0 ∨ command = 0xC1 ∨ command = 0xC2 := by
    simpa [valueOperations] using h
  have hread : command ≠ 0x30 := by rcases hopcode with rfl | rfl | rfl <;> decide
  have hwrite : ¬ (command = 0xA0 ∨ command = 0xA2) := by
    rcases hopcode with rfl | rfl | rfl <;> decide
  have hkey : ¬ (command = 0x60 ∨ command = 0x61 ∨ command = 0x1A) := by
    rcases hopcode with rfl | rfl | rfl <;> decide
  unfold recoded
  simp only [if_neg hread, if_neg hwrite, if_neg hkey, if_pos hopcode]
  cases args with
  | nil =>
    refine .refused ?_
    simp [refusal?, limits_of_payload command (List.mem_append_right _ h)]
  | cons block payload =>
    by_cases hroom : payload.length ≤ maxPayload
    · simp only [if_pos hroom]
      by_cases hstore : command = 0xC2
      · subst hstore
        exact .store block hroom
      · simp only [if_neg hstore]
        exact .change h hstore block hroom
    · simp only [if_neg hroom]
      exact .refused (refusal?_of_payload (List.mem_append_right _ h) hroom)

/-- Another opcode is refused for its length alone. -/
theorem recodes_plain {command : UInt8} (h : command ∉ opcodes) (args : Bytes) :
    Recodes (command :: args) (recoded (command :: args)) := by
  have hopcode := h
  simp only [opcodes, writes, authentications, valueOperations, List.mem_cons, List.mem_append,
    List.not_mem_nil, or_false, not_or] at hopcode
  unfold recoded
  simp only [hopcode, or_self, if_false]
  by_cases hroom : (command :: args).length ≤ maxPassThrough
  · rw [if_pos hroom]
    exact .plain h hroom
  · rw [if_neg hroom]
    refine .refused ?_
    simp only [refusal?, limits_of_not_mem h, Option.any_some]
    rw [if_neg (by simp), if_pos (by simpa using hroom)]

/-- **What a command becomes** is settled by its opcode and its length. -/
theorem recodes (tx : Bytes) : Recodes tx (recoded tx) := by
  cases tx with
  | nil => exact .refused rfl
  | cons command args =>
    rcases opcode_cases command with rfl | h | h | h | h
    · cases args with
      | nil => exact .refused rfl
      | cons block rest => exact .read block rest
    · exact recodes_write h args
    · exact recodes_authenticate h args
    · exact recodes_value h args
    · exact recodes_plain h args

/-- Only what is too short or too long is refused. -/
theorem refusal?_eq_none {command : UInt8} {args : Bytes} {least : Nat} {most? : Option Nat}
    (hlimits : limits command = (least, most?)) (hleast : least ≤ args.length + 1)
    (hmost : ∀ most ∈ most?, args.length + 1 ≤ most) : refusal? (command :: args) = none := by
  simp only [refusal?, hlimits, List.length_cons]
  rw [if_neg (Nat.not_lt.mpr hleast), if_neg]
  cases most? with
  | none => exact Bool.false_ne_true
  | some most => simpa using hmost most rfl

/-- What becomes a command of the reader is not refused. -/
theorem Recodes.refusal?_eq_none {tx : Bytes} {p : Option Bytes × Bytes}
    (h : Recodes tx (.ok p)) : refusal? tx = none := by
  cases h with
  | read block args => exact Feitian.refusal?_eq_none rfl (by simp) nofun
  | write hwrite block hroom =>
    have hlimits := limits_of_payload _ (List.mem_append_left _ hwrite)
    exact Feitian.refusal?_eq_none hlimits (by simp) (by simp; omega)
  | authenticate hkeyed block hkey =>
    exact Feitian.refusal?_eq_none (limits_of_mem_authentications _ hkeyed) (by simp; omega) nofun
  | change hvalue _ block hroom =>
    have hlimits := limits_of_payload _ (List.mem_append_right _ hvalue)
    exact Feitian.refusal?_eq_none hlimits (by simp) (by simp; omega)
  | store block hroom => exact Feitian.refusal?_eq_none rfl (by simp) (by simp; omega)
  | plain hplain hroom =>
    exact Feitian.refusal?_eq_none (limits_of_not_mem hplain) (by simp) (by simpa using hroom)

/-- A command is refused exactly for its length. -/
theorem recoded_eq_error_iff {tx : Bytes} {e : Error} :
    recoded tx = .error e ↔ refusal? tx = some e := by
  have hrecodes := recodes tx
  cases h : recoded tx with
  | error e' =>
    rw [h] at hrecodes
    cases hrecodes with
    | refused h' => rw [h', Option.some.injEq, Except.error.injEq]
  | ok p =>
    rw [h] at hrecodes
    simp [hrecodes.refusal?_eq_none]

end NearField.Pcsc.Feitian
