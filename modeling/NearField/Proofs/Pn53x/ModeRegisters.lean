import NearField.Proofs.Pn53x.Shadow

/-!
# What the mode registers hold

A switch of the mode registers is written only if it changes what they should hold, and then both
registers are written from all that is kept about them.  A host without that economy would note
what was asked for and write both registers on every call (`rewriting`).  After the same settings
both have written the same values last (`written_eq_rewriting`).

What is written is read off the commands that were sent: `writesOf` takes a command that writes
registers apart, and undoes the way it is built (`writesOf_writeRegisters`).
-/

namespace NearField.Pn53x

/-! ## Writes in commands -/

/-- The register with an address given as two bytes, high byte first. -/
def addressOf (hi lo : UInt8) : UInt16 := UInt16.ofNat (hi.toNat * 256 + lo.toNat)

theorem addressOf_addressBytes (r : UInt16) : addressOf (r >>> 8).toUInt8 r.toUInt8 = r := by
  apply UInt16.toNat_inj.mp
  have hr := r.toNat_lt
  have hhi : (r >>> 8).toUInt8.toNat = r.toNat / 256 := by
    simp [Nat.shiftRight_eq_div_pow]
    omega
  rw [addressOf, hhi, UInt16.toNat_toUInt8, UInt16.toNat_ofNat']
  omega

/-- The registers and values behind the code of a command that writes registers. -/
def readWrites : Bytes → List (UInt16 × UInt8)
  | hi :: lo :: value :: rest => (addressOf hi lo, value) :: readWrites rest
  | _ => []

theorem readWrites_flatMap (regs : List (UInt16 × UInt8)) :
    readWrites (regs.flatMap fun r => addressBytes r.1 ++ [r.2]) = regs := by
  induction regs with
  | nil => rfl
  | cons r regs ih =>
      simp only [List.flatMap_cons, addressBytes, List.cons_append, List.nil_append, readWrites,
        addressOf_addressBytes] at ih ⊢
      rw [ih]

/-- The writes to registers that a command makes, in order. -/
def writesOf : Bytes → List (UInt16 × UInt8)
  | code :: params => if code = writeRegister then readWrites params else []
  | [] => []

theorem writesOf_writeRegisters (regs : List (UInt16 × UInt8)) :
    writesOf (Command.writeRegisters regs) = regs :=
  readWrites_flatMap regs

/-- The value that commands write last to a register, if they write to it. -/
def lastWritten? (r : UInt16) (cmds : List Bytes) : Option UInt8 :=
  (cmds.flatMap writesOf).reverse.lookup r

theorem lastWritten?_append (r : UInt16) (cmds cmds' : List Bytes) :
    lastWritten? r (cmds ++ cmds') = (lastWritten? r cmds').or (lastWritten? r cmds) := by
  rw [lastWritten?, List.flatMap_append, List.reverse_append, List.lookup_append]
  rfl

/-- What a mode register holds after commands; before any of them checksums are on. -/
def modeValue (r : UInt16) (cmds : List Bytes) : UInt8 := (lastWritten? r cmds).getD 0x80

/-- Commands that do not write to a mode register leave it as it is. -/
theorem modeValue_append_of_none {r : UInt16} {cmds cmds' : List Bytes}
    (h : lastWritten? r cmds' = none) : modeValue r (cmds ++ cmds') = modeValue r cmds := by
  rw [modeValue, lastWritten?_append, h, Option.none_or, modeValue]

/-- The mode registers hold what the last command that writes both of them says. -/
theorem modeValue_append_both (tx rx : UInt8) (cmds : List Bytes) :
    let cmds' := cmds ++ [Command.writeRegisters [(regTxMode, tx), (regRxMode, rx)]]
    modeValue regTxMode cmds' = tx ∧ modeValue regRxMode cmds' = rx := by
  have hboth (r : UInt16) :
      lastWritten? r [Command.writeRegisters [(regTxMode, tx), (regRxMode, rx)]] =
        [(regRxMode, rx), (regTxMode, tx)].lookup r := by
    rw [lastWritten?, List.flatMap_singleton, writesOf_writeRegisters]
    rfl
  intro cmds'
  simp only [modeValue, cmds', lastWritten?_append, hboth]
  exact ⟨rfl, rfl⟩

/-! ## The host that writes every time -/

/-- A setting of a chip: a switch that is turned on or off, or a number. -/
inductive Setting where
  | bool (p : Property) (enable : Bool)
  | int (p : Property) (value : Int)

/-- What was asked for of the mode registers so far. -/
structure Wishes where
  crc : Bool := true
  acceptInvalid : Bool := false
  acceptMultiple : Bool := false
  /-- Whether the framing that was forced last is that of type B. -/
  framingB : Bool := false

namespace Wishes

/-- A byte with the bit at a place set or clear. -/
def bit (place : UInt8) (on : Bool) : UInt8 := if on then 1 <<< place else 0

/-- The bits of the framing. -/
def framing (w : Wishes) : UInt8 := if w.framingB then 0x03 else 0x00

/-- The transmitter's register; the speed in its bits 4 to 6 is always zero. -/
def tx (w : Wishes) : UInt8 := bit 7 w.crc ||| w.framing

/-- The receiver's register, likewise. -/
def rx (w : Wishes) : UInt8 :=
  bit 7 w.crc ||| bit 3 w.acceptInvalid ||| bit 2 w.acceptMultiple ||| w.framing

/-- Takes note of a switch.  A framing or a speed that is not forced changes nothing. -/
def set (w : Wishes) : Property → Bool → Wishes
  | .handleCrc, enable => { w with crc := enable }
  | .acceptInvalidFrames, enable => { w with acceptInvalid := enable }
  | .acceptMultipleFrames, enable => { w with acceptMultiple := enable }
  | .forceIso14443a, true => { w with framingB := false }
  | .forceIso14443b, true => { w with framingB := true }
  | _, _ => w

/-- Takes note of a setting; for a switch, any number but zero turns it on. -/
def note (w : Wishes) : Setting → Wishes
  | .bool p enable => w.set p enable
  | .int p value => w.set p (value ≠ 0)

end Wishes

/-- The commands of a host that writes both mode registers on every setting, from all that was
asked for. -/
def rewriting : List Setting → Wishes → List Bytes
  | [], _ => []
  | s :: ss, w =>
    Command.writeRegisters [(regTxMode, (w.note s).tx), (regRxMode, (w.note s).rx)]
      :: rewriting ss (w.note s)

/-- That host always leaves the mode registers as was asked for. -/
theorem modeValue_rewriting (ss : List Setting) (w : Wishes) (cmds : List Bytes)
    (h : modeValue regTxMode cmds = w.tx ∧ modeValue regRxMode cmds = w.rx) :
    modeValue regTxMode (cmds ++ rewriting ss w) = (ss.foldl Wishes.note w).tx ∧
      modeValue regRxMode (cmds ++ rewriting ss w) = (ss.foldl Wishes.note w).rx := by
  induction ss generalizing w cmds with
  | nil =>
      rw [rewriting, List.append_nil]
      exact h
  | cons s ss ih =>
      rw [rewriting, List.append_cons]
      exact ih (w.note s) _ (modeValue_append_both _ _ cmds)

/-! ## The host that leaves out what changes nothing -/

namespace Wishes

/-- What the chip layer keeps about the mode registers, given what was asked for. -/
def registers (w : Wishes) : ModeRegisters :=
  ⟨w.crc, 0, w.framing, w.acceptInvalid, w.acceptMultiple⟩

theorem tx_registers (w : Wishes) : w.registers.tx = w.tx := by
  obtain ⟨_ | _, _ | _, _ | _, _ | _⟩ := w <;> rfl

theorem rx_registers (w : Wishes) : w.registers.rx = w.rx := by
  obtain ⟨_ | _, _ | _, _ | _, _ | _⟩ := w <;> rfl

/-- Both sides take the same note of a switch. -/
theorem wanted?_registers (w : Wishes) (p : Property) (enable : Bool) :
    (w.registers.wanted? p enable).getD w.registers = (w.set p enable).registers := by
  cases p <;> cases enable <;> rfl

end Wishes

namespace Setting

variable {τ : Type} [ChipLink τ]

/-- Makes a setting at a chip. -/
def run : Setting → Op (Chip τ) Unit
  | .bool p enable => Chip.setBool p enable
  | .int p value => Chip.setInt p value

end Setting

namespace Chip

variable {τ : Type} [ChipLink τ]

/-- The chip that settings leave, made in order and however each of them ended. -/
def configured (ss : List Setting) (c : Chip τ) : Chip τ :=
  ss.foldl (fun c s => (s.run c).state) c

/-- A switch leaves the mode registers to hold what is wanted, also if it fails. -/
theorem registers_setBool (p : Property) (enable : Bool) (c : Chip τ) :
    (setBool p enable c).state.registers =
      (c.registers.wanted? p enable).getD c.registers := by
  -- a switch of the mode registers changes the shadow before the write
  cases hw : c.registers.wanted? p enable with
  | some r =>
      rw [setBool_eq_hold hw, hold]
      by_cases hsame : r = c.registers
      · rw [if_pos hsame]
        exact hsame.symm
      · rw [if_neg hsame]
        exact congrArg Prod.fst (keeps_shadow_writeModeRegisters { c with registers := r })
  | none =>
      have hcommand (cmd : Bytes) : Act.Keeps registers (command cmd : Op (Chip τ) Unit) :=
        fun c => congrArg Prod.fst (keeps_shadow_command cmd c)
      have hkeeps : Act.Keeps registers (setBool p enable : Op (Chip τ) Unit) := by
        refine .bind Act.keeps_get fun c => ?_
        cases p with
        | handleParity =>
            refine .ite (.bind (hcommand _) fun _ => ?_) (Act.keeps_pure _)
            exact Act.keeps_modify fun _ => rfl
        | easyFraming => exact Act.keeps_modify fun _ => rfl
        | activateField | activateCrypto1 => exact hcommand _
        | infiniteSelect => exact .bind (hcommand _) fun _ => Act.keeps_modify fun _ => rfl
        | autoIso14443_4 =>
            exact .bind (Act.keeps_modify fun _ => rfl) fun _ =>
              .bind Act.keeps_get fun _ => hcommand _
        | timeoutCommand | timeoutAtr | timeoutCom => exact Act.keeps_throw _
        | _ => cases hw
      exact hkeeps c

/-- The other switches write to other registers, or to none. -/
theorem lastWritten?_otherRequests (p : Property) (enable parity : Bool) :
    lastWritten? regTxMode (otherRequests p enable parity) = none ∧
      lastWritten? regRxMode (otherRequests p enable parity) = none := by
  cases p <;> cases enable <;> cases parity <;> exact ⟨rfl, rfl⟩

/-- The mode registers were last told what the host keeps about them. -/
structure Told (c : Chip (Tapped τ)) : Prop where
  tx : modeValue regTxMode c.sent = c.registers.tx
  rx : modeValue regRxMode c.sent = c.registers.rx

omit [ChipLink τ] in
/-- That stays so while neither side changes. -/
theorem Told.unwritten {c c' : Chip (Tapped τ)} {cmds : List Bytes} (h : Told c)
    (hregisters : c'.registers = c.registers) (hsent : c'.sent = c.sent ++ cmds)
    (hnone : lastWritten? regTxMode cmds = none ∧ lastWritten? regRxMode cmds = none) :
    Told c' where
  tx := by rw [hsent, modeValue_append_of_none hnone.1, h.tx, hregisters]
  rx := by rw [hsent, modeValue_append_of_none hnone.2, h.rx, hregisters]

theorem told_setBool {c : Chip (Tapped τ)} (h : Told c) (p : Property) (enable : Bool) :
    Told (setBool p enable c).state := by
  have hregisters := registers_setBool p enable c
  have hsent := sent_setBool p enable c
  have hwanted : c.shadow.1.wanted? p enable = c.registers.wanted? p enable := rfl
  rw [requests, hwanted] at hsent
  cases hw : c.registers.wanted? p enable with
  | none =>
      rw [hw] at hregisters hsent
      exact h.unwritten hregisters hsent (lastWritten?_otherRequests p enable _)
  | some r =>
      rw [hw] at hregisters hsent
      have hregisters : (setBool p enable c).state.registers = r := hregisters
      by_cases hsame : r = c.registers
      · -- what is wanted is kept already, so nothing is sent
        have hsent := hsent.trans (congrArg (c.sent ++ ·) (if_pos hsame))
        exact h.unwritten (hregisters.trans hsame) hsent ⟨rfl, rfl⟩
      · have hsent := hsent.trans (congrArg (c.sent ++ ·) (if_neg hsame))
        obtain ⟨htx, hrx⟩ := modeValue_append_both r.tx r.rx c.sent
        exact ⟨by rw [hsent, hregisters]; exact htx, by rw [hsent, hregisters]; exact hrx⟩

/-- A timeout of the field is told to the chip, and the mode registers are left alone. -/
theorem told_writeTimings {c : Chip (Tapped τ)} (h : Told c) :
    Told (writeTimings c).state := by
  have hkept := keeps_shadow_command (τ := Tapped τ)
    (Command.rfTimings (timeoutCode c.timeoutAtr) (timeoutCode c.timeoutCom)) c
  exact h.unwritten (congrArg Prod.fst hkept) (sent_command _ _ c) ⟨rfl, rfl⟩

end Chip

namespace Setting

variable {τ : Type} [ChipLink τ]

/-- **One setting** leaves the mode registers told what is kept about them. -/
theorem told_run (s : Setting) {c : Chip (Tapped τ)} (h : c.Told) : (s.run c).state.Told := by
  cases s with
  | bool p enable => exact Chip.told_setBool h p enable
  | int p value =>
      cases p with
      | timeoutCommand => exact ⟨h.tx, h.rx⟩
      | timeoutAtr =>
          have hset : Chip.Told { c with timeoutAtr := value } := ⟨h.tx, h.rx⟩
          exact Chip.told_writeTimings hset
      | timeoutCom =>
          have hset : Chip.Told { c with timeoutCom := value } := ⟨h.tx, h.rx⟩
          exact Chip.told_writeTimings hset
      | _ => exact Chip.told_setBool h _ _

/-- What is kept follows what is asked for. -/
theorem registers_run (s : Setting) {w : Wishes} {c : Chip τ} (h : c.registers = w.registers) :
    (s.run c).state.registers = (w.note s).registers := by
  have hswitch (p : Property) (enable : Bool) :
      (Chip.setBool p enable c).state.registers = (w.set p enable).registers := by
    rw [Chip.registers_setBool, h, w.wanted?_registers]
  have hcommand (cmd : Bytes) (c : Chip τ) : (Chip.command cmd c).state.registers = c.registers :=
    congrArg Prod.fst (Chip.keeps_shadow_command cmd c)
  cases s with
  | bool p enable => exact hswitch p enable
  | int p value =>
      cases p with
      | timeoutCommand => exact h
      | timeoutAtr | timeoutCom => exact (hcommand _ _).trans h
      | _ => exact hswitch _ _

end Setting

namespace Chip

variable {τ : Type} [ChipLink τ]

theorem told_configured (ss : List Setting) {w : Wishes} {c : Chip (Tapped τ)} (h : c.Told)
    (hw : c.registers = w.registers) :
    (configured ss c).Told ∧ (configured ss c).registers = (ss.foldl Wishes.note w).registers := by
  induction ss generalizing w c with
  | nil => exact ⟨h, hw⟩
  | cons s ss ih => exact ih (s.told_run h) (s.registers_run hw)

/-- **Leaving out writes makes no difference.**  After any settings of a new chip, over a link that
may also refuse some of their commands, the mode registers were last written as by a host that
writes both on every setting, and that is what was asked for. -/
theorem written_eq_rewriting (ss : List Setting) (l : τ) :
    let c := configured ss { link := ({ link := l } : Tapped τ) }
    let w := ss.foldl Wishes.note {}
    modeValue regTxMode c.sent = modeValue regTxMode (rewriting ss {}) ∧
      modeValue regRxMode c.sent = modeValue regRxMode (rewriting ss {}) ∧
      modeValue regTxMode c.sent = w.tx ∧ modeValue regRxMode c.sent = w.rx := by
  intro c w
  have hnew : (0x80 : UInt8) = ModeRegisters.tx {} ∧ (0x80 : UInt8) = ModeRegisters.rx {} := by
    decide
  -- a new chip has both registers as the first wishes are
  obtain ⟨htold, hregisters⟩ := told_configured ss (w := {})
    (c := { link := ({ link := l } : Tapped τ) }) ⟨hnew.1, hnew.2⟩ rfl
  obtain ⟨htx, hrx⟩ := modeValue_rewriting ss {} [] ⟨rfl, rfl⟩
  have hctx : modeValue regTxMode c.sent = w.tx := by
    rw [htold.tx, hregisters, Wishes.tx_registers]
  have hcrx : modeValue regRxMode c.sent = w.rx := by
    rw [htold.rx, hregisters, Wishes.rx_registers]
  exact ⟨hctx.trans htx.symm, hcrx.trans hrx.symm, hctx, hcrx⟩

end Chip

end NearField.Pn53x
