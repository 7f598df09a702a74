import NearField.Pn53x.Settings
import NearField.Proofs.Pn53x.Exchange
import NearField.Simulated.ChipScript

/-!
# Switches that fail to be written

The host keeps what it set at the chip, and leaves out a write that would change nothing.  What
it keeps is right as long as every write arrives.  When one fails, parity and unbounded
selection are kept as they were, and the same call writes again.  The switches of the mode
registers are kept as they were asked for, although the chip was not told: the same call then
succeeds without a word to the chip (`setBool_failed`).
-/

namespace NearField.Pn53x
open Simulated

/-- The switches of the mode registers. -/
def modeSwitches : List Property :=
  [.handleCrc, .acceptInvalidFrames, .acceptMultipleFrames, .forceIso14443a, .forceIso14443b,
    .forceSpeed106]

/-- The settings that are numbers. -/
def timeouts : List Property := [.timeoutCommand, .timeoutAtr, .timeoutCom]

/-- What the mode registers are to hold once a switch of theirs is set. -/
def ModeRegisters.wanted? (r : ModeRegisters) (p : Property) (enable : Bool) :
    Option ModeRegisters :=
  match p with
  | .handleCrc => some { r with crc := enable }
  | .acceptInvalidFrames => some { r with acceptInvalid := enable }
  | .acceptMultipleFrames => some { r with acceptMultiple := enable }
  | .forceIso14443a => some (if enable then { r with framing := 0x00 } else r)
  | .forceIso14443b => some (if enable then { r with framing := 0x03 } else r)
  | .forceSpeed106 => some (if enable then { r with speed := 0x00 } else r)
  | _ => none

namespace ModeRegisters

variable {r r' : ModeRegisters} {p : Property} {enable : Bool}

theorem wanted?_isSome : (r.wanted? p enable).isSome ↔ p ∈ modeSwitches := by
  cases p <;> simp [wanted?, modeSwitches]

/-- Once a switch is set, setting it again asks for nothing new. -/
theorem wanted?_wanted (h : r.wanted? p enable = some r') : r'.wanted? p enable = some r' := by
  cases p <;> cases h <;> cases enable <;> rfl

end ModeRegisters

namespace Chip

variable {τ : Type}

/-- What decides whether a switch is written. -/
def shadow (c : Chip τ) : ModeRegisters × Bool × Bool := (c.registers, c.parity, c.infiniteSelect)

theorem shadow_of_settings {c c' : Chip τ} (h : c'.settings = c.settings) :
    c'.shadow = c.shadow :=
  show c'.settings.shadow = c.settings.shadow from congrArg shadow h

variable [ChipLink τ] {c c' : Chip τ} {p : Property} {enable : Bool} {e : Error}

/-- What the mode registers are to hold is written, unless they are taken to hold it. -/
def hold (r : ModeRegisters) (c : Chip τ) : Outcome Error (Chip τ) Unit :=
  if r = c.registers then ⟨.ok (), c, []⟩ else writeModeRegisters { c with registers := r }

theorem change_eq_hold {r : ModeRegisters} {q : Prop} [Decidable q]
    {f : ModeRegisters → ModeRegisters} (hr : f c.registers = r) (hq : ¬ q ↔ r = c.registers) :
    (if q then changeRegisters f else pure ()) c = hold r c := by
  subst hr
  by_cases h : f c.registers = c.registers
  · rw [if_neg (hq.mpr h), hold, if_pos h]
    rfl
  · rw [if_pos (Decidable.not_not.mp fun hn => h (hq.mp hn)), hold, if_neg h]
    rfl

theorem force_eq_hold (framing speed : UInt8) :
    force framing speed c =
      hold { c.registers with framing := framing, speed := speed } c := by
  refine change_eq_hold rfl ?_
  cases c.registers
  simp [and_comm]

theorem force_if_eq_hold {framing speed : UInt8} {r : ModeRegisters}
    (hr : (if enable then { c.registers with framing := framing, speed := speed }
      else c.registers) = r) :
    (if enable then force framing speed else pure ()) c = hold r c := by
  subst hr
  cases enable with
  | false => rw [if_neg Bool.false_ne_true, if_neg Bool.false_ne_true, hold, if_pos rfl]; rfl
  | true => exact force_eq_hold framing speed

/-- The six switches of the mode registers are one. -/
theorem setBool_eq_hold {r : ModeRegisters} (h : c.registers.wanted? p enable = some r) :
    setBool p enable c = hold r c := by
  cases p with
  | handleCrc =>
      refine change_eq_hold (Option.some.inj h) ?_
      obtain rfl := Option.some.inj h
      cases c.registers
      simp [eq_comm]
  | acceptInvalidFrames =>
      refine change_eq_hold (Option.some.inj h) ?_
      obtain rfl := Option.some.inj h
      cases c.registers
      simp [eq_comm]
  | acceptMultipleFrames =>
      refine change_eq_hold (Option.some.inj h) ?_
      obtain rfl := Option.some.inj h
      cases c.registers
      simp [eq_comm]
  | forceIso14443a => exact force_if_eq_hold (Option.some.inj h)
  | forceIso14443b => exact force_if_eq_hold (Option.some.inj h)
  | forceSpeed106 => exact force_if_eq_hold (Option.some.inj h)
  | _ => cases h

theorem keeps_shadow_command (cmd : Bytes) :
    Act.Keeps shadow (command cmd : Op (Chip τ) Unit) :=
  fun c => shadow_of_settings (keeps_command cmd c)

theorem keeps_shadow_writeModeRegisters :
    Act.Keeps shadow (writeModeRegisters : Op (Chip τ) Unit) :=
  .bind Act.keeps_get fun _ => keeps_shadow_command _

/-- When a switch of the mode registers fails, they are taken to hold what was asked for. -/
theorem registers_of_fails {r : ModeRegisters} (hr : c.registers.wanted? p enable = some r)
    (h : (setBool p enable).Fails c e c') : r ≠ c.registers ∧ c'.registers = r := by
  obtain ⟨he, rfl⟩ := h
  rw [setBool_eq_hold hr] at he ⊢
  unfold hold at he ⊢
  by_cases hsame : r = c.registers
  · rw [if_pos hsame] at he
    cases he
  · rw [if_neg hsame]
    exact ⟨hsame, congrArg Prod.fst (keeps_shadow_writeModeRegisters { c with registers := r })⟩

/-- When another switch fails, what decides whether it is written stays. -/
theorem shadow_of_fails (hp : p ∉ modeSwitches) (h : (setBool p enable).Fails c e c') :
    c'.shadow = c.shadow := by
  -- outside the mode registers the shadow changes behind the command, if at all
  cases p with
  | handleParity =>
      have h : (if c.parity ≠ enable then _ else _ : Op (Chip τ) Unit).Fails c e c' := h
      rcases Act.fails_ite.mp h with ⟨-, h⟩ | ⟨-, h⟩
      · rcases Act.fails_bind.mp h with h | ⟨_, c₁, -, h⟩
        · exact h.2 ▸ keeps_shadow_command _ c
        · exact absurd h Act.not_fails_modify
      · exact absurd h Act.not_fails_pure
  | infiniteSelect =>
      rcases Act.fails_bind.mp h with h | ⟨_, c₁, hget, h⟩
      · exact absurd h Act.not_fails_get
      · obtain ⟨rfl, rfl⟩ := Act.yields_get.mp hget
        rcases Act.fails_bind.mp h with h | ⟨_, c₂, -, h⟩
        · exact h.2 ▸ keeps_shadow_command _ c
        · exact absurd h Act.not_fails_modify
  | activateField => exact h.2 ▸ keeps_shadow_command _ c
  | activateCrypto1 => exact h.2 ▸ keeps_shadow_command _ c
  | autoIso14443_4 =>
      have hkeeps : Act.Keeps shadow (setBool .autoIso14443_4 enable : Op (Chip τ) Unit) :=
        .bind Act.keeps_get fun _ => .bind (Act.keeps_modify fun _ => rfl) fun _ =>
          .bind Act.keeps_get fun _ => keeps_shadow_command _
      exact h.2 ▸ hkeeps c
  | easyFraming => exact h.2 ▸ rfl
  | timeoutCommand | timeoutAtr | timeoutCom => exact h.2 ▸ rfl
  | _ => exact absurd (by decide) hp

/-! ## Commands -/

/-- The commands that a switch sends that is not one of the mode registers. -/
def otherRequests (p : Property) (enable parity : Bool) : List Bytes :=
  match p with
  | .handleParity =>
    if parity ≠ enable then
      [Command.writeRegisters [(regManualRcv, if enable then 0x00 else bitParityOff)]]
    else []
  | .activateField => [Command.rfField enable]
  | .activateCrypto1 => [Command.writeRegisters [(regStatus2, if enable then bitCrypto1 else 0x00)]]
  | .infiniteSelect => [Command.rfRetries enable]
  | .autoIso14443_4 => [Command.parameters (0x04 ||| if enable then 0x10 else 0x00)]
  | _ => []

/-- The commands that a switch sends: one at most, and none if the shadow has it set already. -/
def requests (p : Property) (enable : Bool) (s : ModeRegisters × Bool × Bool) : List Bytes :=
  match s.1.wanted? p enable with
  | some r => if r = s.1 then [] else [r.command]
  | none => otherRequests p enable s.2.1

theorem sent_hold (r : ModeRegisters) (c : Chip (Tapped τ)) :
    (hold r c).state.sent = c.sent ++ if r = c.registers then [] else [r.command] := by
  unfold hold
  by_cases h : r = c.registers
  · rw [if_pos h, if_pos h, List.append_nil]
  · rw [if_neg h, if_neg h, writeModeRegisters, (Act.get_bind _ _).2]
    exact sent_command _ _ _

theorem sent_command_modify {code : UInt8} {params : Bytes}
    {f : Chip (Tapped τ) → Chip (Tapped τ)} (hf : ∀ c, (f c).sent = c.sent)
    (c : Chip (Tapped τ)) :
    ((command (code :: params) >>= fun _ => modify f) c).state.sent =
      c.sent ++ [code :: params] := by
  rw [Act.keeps_after fun _ => Act.keeps_modify hf, sent_command]

/-- **What a switch sends** is decided by the shadow. -/
theorem sent_setBool (p : Property) (enable : Bool) (c : Chip (Tapped τ)) :
    (setBool p enable c).state.sent = c.sent ++ requests p enable c.shadow := by
  unfold requests
  -- a switch of the mode registers is sent if it changes them, any other as it comes
  cases hw : c.shadow.1.wanted? p enable with
  | some r =>
      rw [setBool_eq_hold hw]
      exact sent_hold r c
  | none =>
      cases p with
      | handleParity =>
          change ((if c.parity ≠ enable then _ else _ : Op (Chip (Tapped τ)) Unit) c).state.sent =
            c.sent ++ if c.parity ≠ enable then _ else _
          by_cases h : c.parity ≠ enable
          · rw [if_pos h, if_pos h]
            refine sent_command_modify ?_ c
            exact fun _ => rfl
          · rw [if_neg h, if_neg h]
            exact (List.append_nil _).symm
      | activateField => exact sent_command _ _ c
      | activateCrypto1 => exact sent_command _ _ c
      | infiniteSelect =>
          change ((command (Command.rfRetries enable) >>= fun _ => modify fun c =>
            { c with infiniteSelect := enable } : Op (Chip (Tapped τ)) Unit) c).state.sent = _
          refine sent_command_modify ?_ c
          exact fun _ => rfl
      | autoIso14443_4 => exact sent_command _ _ { c with autoIso14443_4 := enable }
      | easyFraming => exact (List.append_nil _).symm
      | timeoutCommand | timeoutAtr | timeoutCom => exact (List.append_nil _).symm
      | _ => cases hw

/-- A switch that fails has sent a command, unless it is none. -/
theorem requests_ne_nil {c c' : Chip (Tapped τ)} (ht : p ∉ timeouts)
    (h : (setBool p enable).Fails c e c') : requests p enable c.shadow ≠ [] := by
  unfold requests
  cases hw : c.shadow.1.wanted? p enable with
  | some r =>
      obtain ⟨hne, -⟩ := registers_of_fails hw h
      have hne : r ≠ c.shadow.1 := hne
      simp [hne]
  | none =>
      cases p with
      | handleParity =>
          have h : (if c.parity ≠ enable then _ else _ : Op (Chip (Tapped τ)) Unit).Fails c e c' :=
            h
          rcases Act.fails_ite.mp h with ⟨hne, -⟩ | ⟨-, h⟩
          · have hne : c.shadow.2.1 ≠ enable := hne
            simp [otherRequests, hne]
          · exact absurd h Act.not_fails_pure
      | easyFraming => exact absurd h Act.not_fails_modify
      | timeoutCommand | timeoutAtr | timeoutCom => exact absurd (by decide) ht
      | activateField | activateCrypto1 | infiniteSelect | autoIso14443_4 => simp [otherRequests]
      | _ => cases hw

/-- **When a switch fails**, the same call sends the same command again, unless it is a switch of
the mode registers: those are then taken to be set, and the same call succeeds, sends nothing and
changes nothing. -/
theorem setBool_failed {c c' : Chip (Tapped τ)} (h : (setBool p enable).Fails c e c') :
    ∃ cmds, c'.sent = c.sent ++ cmds ∧ (cmds = [] → p ∈ timeouts) ∧
      (p ∈ modeSwitches → c'.shadow ≠ c.shadow ∧ setBool p enable c' = ⟨.ok (), c', []⟩) ∧
      (p ∉ modeSwitches → c'.shadow = c.shadow ∧
        (setBool p enable c').state.sent = c'.sent ++ cmds) := by
  refine ⟨requests p enable c.shadow, ?_, fun hnil => ?_, fun hp => ?_, fun hp => ?_⟩
  · rw [← h.2, sent_setBool]
  · by_cases ht : p ∈ timeouts
    · exact ht
    · exact absurd hnil (requests_ne_nil ht h)
  · -- a switch of the mode registers: they are taken to hold `r`, which it asks for again
    obtain ⟨r, hr⟩ := Option.isSome_iff_exists.mp (ModeRegisters.wanted?_isSome.mpr hp)
    obtain ⟨hne, rfl⟩ := registers_of_fails hr h
    refine ⟨fun hsame => hne (congrArg Prod.fst hsame), ?_⟩
    rw [setBool_eq_hold (ModeRegisters.wanted?_wanted hr), hold, if_pos rfl]
  · have hshadow := shadow_of_fails hp h
    rw [sent_setBool, hshadow]
    exact ⟨rfl, rfl⟩

/-- A chip whose link refuses the next command. -/
def refusing : Chip (Tapped ChipScript) :=
  { link := { link := { replies := [.sendFails .io] } } }

/-- Parity that could not be switched off is tried again. -/
theorem setBool_failed_parity :
    let cmd := Command.writeRegisters [(regManualRcv, bitParityOff)]
    let first := setBool .handleParity false refusing
    first.result = .error .io ∧ first.state.shadow = refusing.shadow ∧
      (setBool .handleParity false first.state).state.sent = [cmd, cmd] := by
  intro cmd first
  have hfails : (setBool .handleParity false).Fails refusing .io first.state := ⟨rfl, rfl⟩
  obtain ⟨cmds, hsent, -, -, hother⟩ := setBool_failed hfails
  obtain ⟨hshadow, hagain⟩ := hother (by decide)
  have hcmds : [cmd] = cmds := hsent
  refine ⟨rfl, hshadow, ?_⟩
  rw [hagain, hsent, ← hcmds]
  rfl

/-- Checksums that could not be switched off are taken to be off, and the chip is not told. -/
theorem setBool_crc_forgotten :
    let c := refusing
    let first := setBool .handleCrc false c
    let second := setBool .handleCrc false first.state
    first.result = .error .io ∧ first.state.shadow ≠ c.shadow ∧
      second.result = .ok () ∧ second.state.sent = first.state.sent := by
  refine ⟨rfl, ?_, rfl, rfl⟩
  decide

end Chip

end NearField.Pn53x
