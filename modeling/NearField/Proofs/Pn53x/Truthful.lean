import NearField.Pn53x.Reader
import NearField.Proofs.Pn53x.Heard

/-!
# The chip layer is truthful about a status

Every operation of a chip is truthful (`truthful_transceiveBytes`, …): if it crosses the link at
all, a failing status that is kept afterwards is one that it heard and that it failed with.  Most
operations send only commands whose replies have no status byte; these are calm, also where they
attempt something and go on behind its failure (`quiet_pollTarget`).  The others end at their first
failure, except for an exchange of bits, which restores a register behind it, and so sweeps what
the exchange kept.

Selecting a peer crosses the link or is refused before by its arguments alone
(`selectDep_silent_or_tells`), so an attempt that is repeated does the same each time.
-/

namespace NearField.Pn53x.Chip

variable {τ α : Type}

/-- A chip shows itself. -/
abbrev itself (τ : Type) : Chip (Noted Crossing τ) → Chip (Noted Crossing τ) := id

/-! ## Steps within the host -/

/-- A change is quiet if it leaves the crossings and the status alone. -/
theorem quiet_modify {f : Chip (Noted Crossing τ) → Chip (Noted Crossing τ)}
    (h : ∀ c, Silent c (f c)) : Quiet (itself τ) (modify f) :=
  Act.leads_modify fun c => .inl (h c)

theorem quiet_ofOption (e : Error) (x? : Option α) : Quiet (itself τ) (Act.ofOption e x?) := by
  cases x? with
  | none => exact Act.leads_throw trivial
  | some x => exact Act.leads_pure x

theorem quiet_ofExcept (r : Except Error α) : Quiet (itself τ) (Act.ofExcept r) :=
  Act.leads_ofExcept fun _ _ => trivial

theorem quiet_require (p : Bool) (e : Error) : Quiet (itself τ) (Act.require p e) := by
  cases p with
  | false => exact Act.leads_throw trivial
  | true => exact Act.leads_pure ()

/-- What is read off a description is of no account for the chip. -/
theorem quiet_readAll (data : Bytes) (a : Op Cursor α) :
    Quiet (itself τ) (Cursor.readAll data a) :=
  fun c => ⟨.inl (.refl c), fun _ _ => trivial⟩

/-- Taking a target for the current one is a matter of the host. -/
theorem quiet_remember (t : Target) : Quiet (itself τ) (remember t) :=
  .bind (quiet_modify fun _ => ⟨rfl, rfl⟩) fun _ => Act.leads_pure _

/-- So is reading a description. -/
theorem quiet_decodeTarget (data : Bytes) (m : Modulation) :
    Quiet (itself τ) (decodeTarget data m) :=
  (quiet_readAll _ _).bind fun _ => Act.leads_pure _

theorem quiet_decodeDepTarget (data : Bytes) (mode : DepMode) (rate : BaudRate) :
    Quiet (itself τ) (decodeDepTarget data mode rate) :=
  (quiet_readAll _ _).bind fun _ => Act.leads_pure _

/-- A modulation is refused without asking the chip. -/
theorem quiet_ensureSupported (m : Modulation) : Quiet (itself τ) (ensureSupported m) := by
  unfold ensureSupported
  cases brty? m with
  | some brty => exact Act.leads_pure _
  | none => exact (Act.leads_log _ _ _).bind fun _ => Act.leads_throw trivial

/-- So is a reply for want of room. -/
theorem quiet_fit (capacity : Nat) (data : Bytes) : Quiet (itself τ) (fit capacity data) :=
  .ite ((Act.leads_log _ _ _).bind fun _ => (Act.leads_throw trivial).bind fun _ =>
    Act.leads_pure _) (Act.leads_pure _)

/-- So are general bytes that are too long. -/
theorem quiet_checkGeneralBytes (general : Bytes) :
    Quiet (itself τ) (checkGeneralBytes general) :=
  .ite ((Act.leads_log _ _ _).bind fun _ => Act.leads_throw trivial) (Act.leads_pure _)

/-- A reply to a poll is read without asking the chip again. -/
theorem quiet_readAutoPoll (reply : Bytes) : Quiet (itself τ) (readAutoPoll reply) := by
  unfold readAutoPoll
  split
  · exact Act.leads_pure _
  · exact Act.leads_pure _
  · refine (quiet_ofOption _ _).bind fun m => (quiet_require _ _).bind fun _ => ?_
    split
    · exact Act.leads_throw trivial
    · exact (quiet_decodeTarget _ m).bind fun t => quiet_remember t
  · exact Act.leads_throw trivial

/-- Nothing crosses the link when a target is made up. -/
theorem quiet_disguise (t : Target) : Quiet (itself τ) (disguise t) := by
  unfold disguise
  cases t.info with
  | iso14443a a => exact Act.leads_pure _
  | felica f => exact Act.leads_pure _
  | dep d => exact (quiet_checkGeneralBytes _).bind fun _ => Act.leads_pure _
  | _ => exact Act.leads_throw trivial

/-- What is truthful stays so beside a target that the caller holds. -/
theorem truthful_besideTarget {a : Op (Chip (Noted Crossing τ)) α}
    (ha : Truthful (itself τ) a) :
    Truthful (Prod.snd : Target × Chip (Noted Crossing τ) → _) (besideTarget a) :=
  ha.zoom (fun _ => rfl) fun _ _ => rfl

variable [ChipLink τ]

/-! ## Exchanges -/

/-- **An exchange is truthful**: a command that is refused crosses nothing, and any other has its
reply noted. -/
theorem truthful_transceive (cmd : Bytes) (t : Timeout) :
    Truthful (itself τ) (transceive cmd t) := by
  cases cmd with
  | nil => exact truthful_throw _
  | cons code params => exact Tells.truthful (accounts_transceive code params t)

/-- The default time makes no difference to that. -/
theorem truthful_exchange (cmd : Bytes) : Truthful (itself τ) (exchange cmd) :=
  .get_bind fun _ => truthful_transceive cmd _

theorem truthful_command (cmd : Bytes) : Truthful (itself τ) (command cmd) :=
  (truthful_exchange cmd).bind fun _ => truthful_pure _

/-- An exchange that brings no status byte sweeps the one that was kept. -/
theorem sweeps_transceive {cmd : Bytes} (h : cmd.head?.map hasStatusByte = some false)
    (t : Timeout) : Sweeps (itself τ) (transceive cmd t) := by
  cases cmd with
  | nil => cases h
  | cons code params => exact clears_transceive (Option.some.inj h) params t

theorem sweeps_exchange {cmd : Bytes} (h : cmd.head?.map hasStatusByte = some false) :
    Sweeps (itself τ) (exchange cmd) :=
  fun c => sweeps_transceive h c.commandTimeout c

theorem sweeps_command {cmd : Bytes} (h : cmd.head?.map hasStatusByte = some false) :
    Sweeps (itself τ) (command cmd) :=
  (sweeps_exchange h).bind fun _ => Act.leads_pure _

/-- The reply to writing a register has no status byte. -/
theorem sweeps_writeRegister (r : UInt16) (value : UInt8) :
    Sweeps (itself τ) (writeRegister r value) :=
  sweeps_command rfl

/-- Nor has the reply to reading one, and a reply that is too short is refused by the host. -/
theorem quiet_readRegister (r : UInt16) : Quiet (itself τ) (readRegister r) :=
  (sweeps_exchange rfl).quiet.bind fun _ => quiet_ofOption _ _

/-! ## Settings -/

/-- What is kept of the mode registers is written to the chip in one command. -/
theorem quiet_changeRegisters (f : ModeRegisters → ModeRegisters) :
    Quiet (itself τ) (changeRegisters f) :=
  .bind (quiet_modify fun _ => ⟨rfl, rfl⟩) fun _ =>
    .get_bind fun _ => (sweeps_command rfl).quiet

/-- A framing and a speed are forced by writing the mode registers, if at all. -/
theorem quiet_force (framing speed : UInt8) : Quiet (itself τ) (force framing speed) :=
  .get_bind fun _ => .ite (quiet_changeRegisters _) (Act.leads_pure _)

/-- The timings are told in one command. -/
theorem quiet_writeTimings : Quiet (itself τ) writeTimings :=
  .get_bind fun _ => (sweeps_command rfl).quiet

/-- Unbounded selection is never switched without a command. -/
theorem sweeps_setBool_infiniteSelect (enable : Bool) :
    Sweeps (itself τ) (setBool .infiniteSelect enable) := by
  have hset : Sweeps (itself τ) (do
      command (Command.rfRetries enable)
      modify fun c => { c with infiniteSelect := enable }) :=
    (sweeps_command rfl).bind fun _ => quiet_modify fun _ => ⟨rfl, rfl⟩
  exact fun c => hset c

/-- Switches write registers, timings or parameters, and no reply to these has a status byte. -/
theorem quiet_setBool (p : Property) (enable : Bool) : Quiet (itself τ) (setBool p enable) := by
  refine .get_bind fun c => ?_
  cases p with
  | handleCrc | acceptInvalidFrames | acceptMultipleFrames =>
      exact .ite (quiet_changeRegisters _) (Act.leads_pure _)
  | forceIso14443a | forceIso14443b | forceSpeed106 =>
      exact .ite (quiet_force _ _) (Act.leads_pure _)
  | handleParity =>
      refine .ite ((sweeps_writeRegister _ _).quiet.bind fun _ => ?_) (Act.leads_pure _)
      exact quiet_modify fun _ => ⟨rfl, rfl⟩
  | easyFraming => exact quiet_modify fun _ => ⟨rfl, rfl⟩
  | activateField => exact (sweeps_command rfl).quiet
  | activateCrypto1 => exact (sweeps_writeRegister _ _).quiet
  | infiniteSelect =>
      exact (sweeps_command rfl).quiet.bind fun _ => quiet_modify fun _ => ⟨rfl, rfl⟩
  | autoIso14443_4 =>
      refine .bind (quiet_modify fun _ => ⟨rfl, rfl⟩) fun _ => .get_bind fun _ => ?_
      exact (sweeps_command rfl).quiet
  | timeoutCommand | timeoutAtr | timeoutCom => exact Act.leads_throw trivial

/-- A setting with a number is kept by the host, or writes timings. -/
theorem quiet_setInt (p : Property) (value : Int) : Quiet (itself τ) (setInt p value) := by
  cases p with
  | timeoutCommand => exact quiet_modify fun _ => ⟨rfl, rfl⟩
  | timeoutAtr | timeoutCom =>
      exact .bind (quiet_modify fun _ => ⟨rfl, rfl⟩) fun _ => quiet_writeTimings
  | _ => exact quiet_setBool _ _

/-! ## The initiator -/

/-- An initiator is set up by registers. -/
theorem quiet_initiatorInit : Quiet (itself τ) initiatorInit :=
  (sweeps_writeRegister _ _).quiet.bind fun _ => quiet_modify fun _ => ⟨rfl, rfl⟩

/-- **A selection is quiet**: its reply counts targets, and brings no status byte. -/
theorem quiet_selectPassive (m : Modulation) (initData : Bytes) :
    Quiet (itself τ) (selectPassive m initData) := by
  refine (quiet_ensureSupported m).bind fun brty => .get_bind fun c => ?_
  refine (sweeps_transceive rfl _).quiet.bind fun reply => ?_
  split
  · exact Act.leads_pure _
  · exact Act.leads_pure _
  · exact (quiet_decodeTarget _ m).bind fun t => quiet_remember t
  · exact Act.leads_throw trivial

/-- Selections that follow each other are quiet, by induction on the entries, also behind one that
failed. -/
theorem quiet_pollOnce (ms : List Modulation) : Quiet (itself τ) (pollOnce ms) := by
  induction ms with
  | nil => exact Act.leads_pure _
  | cons m ms ih =>
      refine (quiet_selectPassive m []).attempt.bind fun found => ?_
      split
      · exact Act.leads_pure _
      · exact ih
      · exact ih
      · exact Act.leads_throw trivial

/-- So are rounds of them. -/
theorem quiet_pollRounds (ms : List Modulation) (n : Nat) :
    Quiet (itself τ) (pollRounds ms n) := by
  induction n with
  | zero => exact Act.leads_pure _
  | succ n ih =>
      refine (quiet_pollOnce ms).bind fun found => ?_
      cases found with
      | some t => exact Act.leads_pure _
      | none => exact ih

/-- So is a poll, between the commands that switch unbounded selection. -/
theorem quiet_softwarePoll (ms : List Modulation) (pollNr : UInt8) :
    Quiet (itself τ) (softwarePoll ms pollNr) := by
  refine .get_bind fun c => .optionally (quiet_setBool _ _) ?_
  refine (quiet_pollRounds ms (rounds pollNr)).attempt.bind fun found => ?_
  exact .optionally (quiet_setBool _ _) (quiet_ofExcept found)

theorem quiet_pollTarget (ms : List Modulation) (pollNr period : UInt8) :
    Quiet (itself τ) (pollTarget ms pollNr period) := by
  refine (quiet_require _ _).bind fun _ => .get_bind fun c => .ite (quiet_softwarePoll ms pollNr) ?_
  refine (quiet_ofOption _ _).bind fun types => ?_
  split
  · exact (sweeps_transceive rfl _).quiet.bind fun reply => quiet_readAutoPoll reply
  · exact Act.leads_pure none

/-- A target is let go in one exchange. -/
theorem truthful_deselect : Truthful (itself τ) deselect :=
  .bind (truthful_modify fun _ => ⟨rfl, rfl⟩) fun _ => truthful_command _

/-- **Exchanging bytes is truthful**: it ends at its first failure. -/
theorem truthful_transceiveBytes (tx : Bytes) (capacity : Nat) (t : Timeout) :
    Truthful (itself τ) (transceiveBytes tx capacity t) :=
  .get_bind fun _ => (truthful_transceive _ t).bind fun _ => (quiet_fit _ _).truthful

/-- **So is exchanging bits**, though a register is restored behind a failure: that exchange sweeps
the status which was kept. -/
theorem truthful_transceiveBits (tx : BitFrame) (capacity : Nat) :
    Truthful (itself τ) (transceiveBits tx capacity) := by
  refine .get_bind fun c => (quiet_require _ _).truthful.bind fun _ => ?_
  refine (quiet_require _ _).truthful.bind fun _ => ?_
  refine (sweeps_writeRegister _ _).quiet.truthful.bind fun _ => ?_
  have hrest (reply : Bytes) : Quiet (itself τ) (do
      let data ← fit capacity (reply.drop 1)
      let rxLastBits := (← readRegister regControl) &&& maskLastBits
      return BitFrame.mk data (countBits data.length rxLastBits) none) :=
    (quiet_fit _ _).bind fun _ => (quiet_readRegister _).bind fun _ => Act.leads_pure _
  -- putting the framing back clears the status of the exchange, and so keeps no failure
  by_cases hbits : UInt8.ofNat (tx.bits % 8) ≠ 0
  · simp only [if_pos hbits]
    refine truthful_attempt_bind (truthful_exchange _).grows fun exchanged => ?_
    exact (sweeps_writeRegister _ _).bind fun _ => (quiet_ofExcept exchanged).bind hrest
  · simp only [if_neg hbits]
    rw [Act.attempt_ofExcept_bind]
    exact (truthful_exchange _).bind fun reply => (hrest reply).truthful

/-- Timed exchanges go by registers alone. -/
theorem truthful_transceiveBytesTimed (tx : Bytes) (capacity : Nat) :
    Truthful (itself τ) (transceiveBytesTimed tx capacity) := by
  refine .get_bind fun _ => (quiet_require _ _).truthful.bind fun _ => ?_
  refine (truthful_command _).bind fun _ => (truthful_exchange _).bind fun reply => ?_
  refine (quiet_fit _ _).truthful.bind fun data => (truthful_exchange _).bind fun counter => ?_
  exact (quiet_ofOption _ _).truthful.bind fun count => .get_bind fun _ => truthful_pure _

/-- Asking for the presence of a target is truthful, whichever way it is asked for. -/
theorem truthful_targetIsPresent (target : Option Target) :
    Truthful (itself τ) (targetIsPresent target) := by
  refine .get_bind fun c => ?_
  cases c.current? with
  | none => exact (truthful_log _ _ _).bind fun _ => truthful_throw _
  | some current =>
      have hask : Truthful (itself τ) (do
          let reply ← exchange Command.attentionRequest
          if reply.head? ≠ some 0x00 then
            modify fun c => { c with current? := none }
            throw .targetReleased) := by
        refine (truthful_exchange _).bind fun reply => .ite ?_ (truthful_pure _)
        exact .bind (truthful_modify fun _ => ⟨rfl, rfl⟩) fun _ => truthful_throw _
      refine .ite ((truthful_log _ _ _).bind fun _ => ?_) hask
      exact (truthful_throw _).bind fun _ => hask

/-- The arguments alone decide whether selecting a peer crosses the link. -/
theorem selectDep_silent_or_tells (mode : DepMode) (rate : BaudRate) (initiator : Option DepInfo)
    (t : Timeout) :
    (∀ c : Chip (Noted Crossing τ), Silent c (selectDep mode rate initiator t c).state) ∨
      Tells (itself τ) (selectDep mode rate initiator t) := by
  unfold selectDep
  cases depModeByte? mode with
  | none => exact .inl fun c => .refl c
  | some modeByte =>
  cases depBaudByte? rate with
  | none => exact .inl fun c => .refl c
  | some baudByte =>
      have hrest : Tells (itself τ) (do
          let polls := mode = .passive ∧ rate ≠ .kbps106
          let reply ← transceive (jumpForDep modeByte baudByte polls initiator) t
          remember (← decodeDepTarget (reply.drop 1) mode rate)) :=
        Tells.bind (accounts_transceive _ _ _) fun reply =>
          (quiet_decodeDepTarget _ mode rate).truthful.bind fun t => (quiet_remember t).truthful
      cases initiator with
      | none => exact .inr hrest
      | some i =>
          by_cases hlong : maxGeneralBytes < i.generalBytes.length
          · refine .inl fun c => ?_
            simp only [checkGeneralBytes, if_pos hlong]
            exact .refl c
          · refine .inr ?_
            simp only [checkGeneralBytes, if_neg hlong]
            exact hrest

/-- **Selecting a peer is truthful.** -/
theorem truthful_selectDep (mode : DepMode) (rate : BaudRate) (initiator : Option DepInfo)
    (t : Timeout) : Truthful (itself τ) (selectDep mode rate initiator t) := by
  rcases selectDep_silent_or_tells (τ := τ) mode rate initiator t with h | h
  · exact fun c => .inl (h c)
  · exact h.truthful

/-! ## The target -/

/-- Playing a target is truthful: its command brings no status byte, and what follows ends at its
first failure. -/
theorem truthful_targetInit (capacity : Nat) (t : Timeout) :
    Truthful (Prod.snd : Target × Chip (Noted Crossing τ) → _) (targetInit capacity t) := by
  refine .get_bind fun (target, c) => ?_
  refine (truthful_besideTarget (quiet_disguise target).truthful).bind fun d => ?_
  refine .bind (truthful_besideTarget (truthful_modify fun _ => ⟨rfl, rfl⟩)) fun _ => ?_
  refine (truthful_besideTarget (truthful_transceive _ t)).bind fun reply => ?_
  cases reply with
  | nil => exact truthful_throw _
  | cons activated first =>
      exact .bind (truthful_modify fun _ => ⟨rfl, rfl⟩) fun _ =>
        truthful_besideTarget (quiet_fit _ _).truthful

/-- A reply as a target is sent in one exchange. -/
theorem truthful_targetSendBytes (tx : Bytes) (t : Timeout) :
    Truthful (itself τ) (targetSendBytes tx t) :=
  (truthful_transceive _ t).bind fun _ => truthful_pure _

/-- A command to a target is received in one exchange. -/
theorem truthful_targetReceiveBytes (capacity : Nat) (t : Timeout) :
    Truthful (itself τ) (targetReceiveBytes capacity t) :=
  (truthful_transceive _ t).bind fun _ => (quiet_fit _ _).truthful

/-- A chip lets its targets go before its field is switched off, and ends at its first failure. -/
theorem truthful_idle : Truthful (itself τ) idle := by
  refine .get_bind fun c => ?_
  have hend : Truthful (itself τ)
      (modify fun c => { c with current? := none, role := .idle }) :=
    truthful_modify fun _ => ⟨rfl, rfl⟩
  cases c.role with
  | initiator =>
      exact (truthful_command _).bind fun _ => (truthful_command _).bind fun _ => hend
  | target => exact (truthful_command _).bind fun _ => hend
  | idle => exact hend

theorem truthful_powerDown : Truthful (itself τ) powerDown :=
  .get_bind fun _ => (quiet_require _ _).truthful.bind fun _ =>
    (truthful_command _).bind fun _ => truthful_modify fun _ => ⟨rfl, rfl⟩

end NearField.Pn53x.Chip
