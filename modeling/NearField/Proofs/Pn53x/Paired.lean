import NearField.Pn53x.Reader
import NearField.Proofs.Pn53x.Exchange

/-!
# One chip over two links

The chip layer reaches its link through exchanges only, and what it makes of a reply does not
depend on the link.  So when two links answer every exchange alike, every operation of the chip
layer ends alike over both and leaves the same knowledge with the host (`simulates_command`,
`simulates_setBool`, …).

`Interchange K T L` is that assumption.  The links are related by `L`, and answer alike within
the timeouts of `T`; `K` is what is known all along of unbounded selection and of the usual
timeout, and keeps the timeouts that the chip layer chooses by itself within `T`.
-/

namespace NearField.Pn53x

variable {τ τ' α β : Type}

/-- What the host knows about a chip, its link apart. -/
def Chip.host (c : Chip τ) : Chip Unit := c.mapLink fun _ => ()

/-- What the host knows about a chip, over a link. -/
def Chip.withLink (k : Chip Unit) (l : τ) : Chip τ := k.mapLink fun _ => l

@[simp] theorem Chip.withLink_role (k : Chip Unit) (l : τ) : (k.withLink l).role = k.role := rfl

@[simp] theorem Chip.withLink_current? (k : Chip Unit) (l : τ) :
    (k.withLink l).current? = k.current? := rfl

/-- The host knows the same about both chips, and their links are related. -/
structure Paired (K : Bool → Int → Prop) (L : τ → τ' → Prop) (c : Chip τ) (c' : Chip τ') :
    Prop where
  host : c.host = c'.host
  known : K c.infiniteSelect c.timeoutCommand
  link : L c.link c'.link

/-- The second chip is the first over the other link. -/
theorem Paired.eq_withLink {K : Bool → Int → Prop} {L : τ → τ' → Prop} {c : Chip τ} {c' : Chip τ'}
    (h : Paired K L c c') : c' = c.host.withLink c'.link := by
  rw [h.host]
  rfl

/-- Exchanges within the timeouts of `T` end alike over both links, and the chip layer does not
choose other timeouts by itself. -/
structure Interchange [ChipLink τ] [ChipLink τ'] (K : Bool → Int → Prop) (T : Timeout → Prop)
    (L : τ → τ' → Prop) : Prop where
  carry (code : UInt8) (params : Bytes) {t : Timeout} (ht : T t) :
    Act.Simulates L (carry code params t) (carry code params t)
  usual {unbounded : Bool} {ms : Int} (h : K unbounded ms) : T (.ofInt ms)
  endless : T .infinite

namespace Chip

variable {K : Bool → Int → Prop} {T : Timeout → Prop} {L : τ → τ' → Prop}

/-! ## Steps -/

/-- Two chips stay paired whatever is done on both links alike. -/
theorem simulates_onLink {a : Op τ α} {b : Op τ' α} (h : Act.Simulates L a b) :
    Act.Simulates (Paired K L) (onLink a) (onLink b) := by
  intro c c' hc
  obtain ⟨hresult, hlink⟩ := h _ _ hc.link
  exact ⟨hresult, hc.host, hc.known, hlink⟩

/-- Both chips change alike: the change is looked at over what the host knows of both. -/
theorem simulates_modify {f : Chip τ → Chip τ} {g : Chip τ' → Chip τ'}
    (h : ∀ (k : Chip Unit) l l', Paired K L (k.withLink l) (k.withLink l') →
      Paired K L (f (k.withLink l)) (g (k.withLink l'))) :
    Act.Simulates (Paired K L) (modify f : Op (Chip τ) PUnit) (modify g) := by
  refine Act.simulates_modify fun c c' hc => ?_
  have heq := hc.eq_withLink
  rw [heq] at hc ⊢
  exact h c.host c.link c'.link hc

/-- Both chips go on by what the host knows of both. -/
theorem simulates_get_bind {f : Chip τ → Op (Chip τ) α} {g : Chip τ' → Op (Chip τ') α}
    (h : ∀ (k : Chip Unit) l l', K k.infiniteSelect k.timeoutCommand →
      Act.Simulates (Paired K L) (f (k.withLink l)) (g (k.withLink l'))) :
    Act.Simulates (Paired K L) (get >>= f) (get >>= g) := by
  refine .get_bind fun c c' hc => ?_
  have hknown := hc.known
  rw [hc.eq_withLink]
  exact h c.host c.link c'.link hknown

/-! ## Exchanges -/

/-- A status byte is read alike whichever link brought it. -/
theorem simulates_checkStatus (reply : Bytes) :
    Act.Simulates (Paired K L) (checkStatus reply) (checkStatus reply) := by
  cases reply with
  | nil => exact Act.simulates_throw _
  | cons status params =>
      refine .ite ?_ (Act.simulates_pure _)
      refine (simulates_modify fun _ _ _ h => ⟨rfl, h.known, h.link⟩).bind fun _ => ?_
      refine (Act.simulates_log _ _ _).bind fun _ => .ite ?_ (Act.simulates_throw _)
      refine (simulates_modify fun _ _ _ h => ⟨rfl, h.known, h.link⟩).bind fun _ => ?_
      exact Act.simulates_throw _

variable [ChipLink τ] [ChipLink τ'] (h : Interchange K T L)
include h

/-- An exchange within the timeouts of `T` ends alike over both links. -/
theorem simulates_transceive (cmd : Bytes) {t : Timeout} (ht : T t) :
    Act.Simulates (Paired K L) (transceive cmd t) (transceive cmd t) := by
  cases cmd with
  | nil => exact Act.simulates_throw _
  | cons code params =>
      rw [transceive_eq, transceive_eq]
      refine (simulates_modify fun _ _ _ h => ⟨rfl, h.known, h.link⟩).bind fun _ => ?_
      refine (Act.simulates_log _ _ _).bind fun _ => ?_
      refine (simulates_onLink (h.carry code params ht)).bind fun reply => ?_
      refine (Act.simulates_log _ _ _).bind fun _ => .ite ?_ (Act.simulates_pure _)
      exact (simulates_checkStatus reply).bind fun _ => Act.simulates_pure _

/-- An exchange for as long as usual, which `K` keeps within `T`. -/
theorem simulates_exchange (cmd : Bytes) :
    Act.Simulates (Paired K L) (exchange cmd) (exchange cmd) :=
  simulates_get_bind fun _ _ _ hk => simulates_transceive h cmd (h.usual hk)

theorem simulates_command (cmd : Bytes) :
    Act.Simulates (Paired K L) (command cmd) (command cmd) :=
  (simulates_exchange h cmd).bind fun _ => Act.simulates_pure _

/-- Both chips are taken for the same model, or neither is known. -/
theorem simulates_identify : Act.Simulates (Paired K L) identify identify := by
  refine (simulates_exchange h _).bind fun reply => ?_
  cases identity? reply with
  | none => exact (Act.simulates_log _ _ _).bind fun _ => Act.simulates_throw _
  | some found =>
      refine (Act.simulates_log _ _ _).bind fun _ => ?_
      exact simulates_modify fun _ _ _ h => ⟨rfl, h.known, h.link⟩

/-! ## Settings -/

theorem simulates_writeRegister (r : UInt16) (value : UInt8) :
    Act.Simulates (Paired K L) (writeRegister r value) (writeRegister r value) :=
  simulates_command h _

theorem simulates_readRegister (r : UInt16) :
    Act.Simulates (Paired K L) (readRegister r) (readRegister r) :=
  (simulates_exchange h _).bind fun _ => Act.simulates_ofOption _ _

/-- The shadows change before the write, and on both sides alike. -/
theorem simulates_changeRegisters (f : ModeRegisters → ModeRegisters) :
    Act.Simulates (Paired K L) (changeRegisters f) (changeRegisters f) := by
  refine (simulates_modify fun _ _ _ h => ⟨rfl, h.known, h.link⟩).bind fun _ => ?_
  exact simulates_get_bind fun _ _ _ _ => simulates_command h _

/-- A framing and a speed are forced alike, as both chips hold the same registers. -/
theorem simulates_force (framing speed : UInt8) :
    Act.Simulates (Paired K L) (force framing speed) (force framing speed) :=
  simulates_get_bind fun _ _ _ _ => .ite (simulates_changeRegisters h _) (Act.simulates_pure _)

theorem simulates_writeTimings : Act.Simulates (Paired K L) writeTimings writeTimings :=
  simulates_get_bind fun _ _ _ _ => simulates_command h _

/-- A switch, unless it is the one that `K` is about. -/
theorem simulates_setBool (p : Property) (enable : Bool)
    (hK : p = .infiniteSelect → ∀ unbounded ms, K unbounded ms → K enable ms) :
    Act.Simulates (Paired K L) (setBool p enable) (setBool p enable) := by
  refine simulates_get_bind fun k _ _ _ => ?_
  cases p with
  | handleCrc | acceptInvalidFrames | acceptMultipleFrames =>
      exact .ite (simulates_changeRegisters h _) (Act.simulates_pure _)
  | forceIso14443a | forceIso14443b | forceSpeed106 =>
      exact .ite (simulates_force h _ _) (Act.simulates_pure _)
  | handleParity =>
      refine .ite ((simulates_writeRegister h _ _).bind fun _ => ?_) (Act.simulates_pure _)
      exact simulates_modify fun _ _ _ h => ⟨rfl, h.known, h.link⟩
  | easyFraming => exact simulates_modify fun _ _ _ h => ⟨rfl, h.known, h.link⟩
  | activateField => exact simulates_command h _
  | activateCrypto1 => exact simulates_writeRegister h _ _
  | infiniteSelect =>
      refine (simulates_command h _).bind fun _ => ?_
      exact simulates_modify fun _ _ _ h => ⟨rfl, hK rfl _ _ h.known, h.link⟩
  | autoIso14443_4 =>
      refine (simulates_modify fun _ _ _ h => ⟨rfl, h.known, h.link⟩).bind fun _ => ?_
      exact simulates_get_bind fun _ _ _ _ => simulates_command h _
  | timeoutCommand | timeoutAtr | timeoutCom => exact Act.simulates_throw _

/-- A number, unless `K` is about it. -/
theorem simulates_setInt (p : Property) (value : Int)
    (hbool : p = .infiniteSelect → ∀ unbounded ms, K unbounded ms → K (value ≠ 0) ms)
    (hint : p = .timeoutCommand → ∀ unbounded ms, K unbounded ms → K unbounded value) :
    Act.Simulates (Paired K L) (setInt p value) (setInt p value) := by
  cases p with
  | timeoutCommand =>
      exact simulates_modify fun _ _ _ h => ⟨rfl, hint rfl _ _ h.known, h.link⟩
  | timeoutAtr | timeoutCom =>
      refine (simulates_modify fun _ _ _ h => ⟨rfl, h.known, h.link⟩).bind fun _ => ?_
      exact simulates_writeTimings h
  | _ => exact simulates_setBool h _ _ hbool

/-! ## The initiator -/

/-- The role changes behind the write, where that succeeded on both sides. -/
theorem simulates_initiatorInit : Act.Simulates (Paired K L) initiatorInit initiatorInit := by
  refine (simulates_writeRegister h _ _).bind fun _ => ?_
  exact simulates_modify fun _ _ _ h => ⟨rfl, h.known, h.link⟩

omit h [ChipLink τ] [ChipLink τ'] in
/-- Both chips keep the same target. -/
theorem simulates_remember (t : Target) :
    Act.Simulates (Paired K L) (remember t) (remember t) :=
  (simulates_modify fun _ _ _ h => ⟨rfl, h.known, h.link⟩).bind fun _ => Act.simulates_pure _

omit h [ChipLink τ] [ChipLink τ'] in
theorem simulates_decodeTarget (data : Bytes) (m : Modulation) :
    Act.Simulates (Paired K L) (decodeTarget data m) (decodeTarget data m) :=
  (Act.simulates_beside _ _).bind fun _ => Act.simulates_pure _

omit h [ChipLink τ] [ChipLink τ'] in
theorem simulates_ensureSupported (m : Modulation) :
    Act.Simulates (Paired K L) (ensureSupported m) (ensureSupported m) := by
  unfold ensureSupported
  cases brty? m with
  | some brty => exact Act.simulates_pure _
  | none => exact (Act.simulates_log _ _ _).bind fun _ => Act.simulates_throw _

/-- A selection waits without end only if both chips select without end, so its timeout is within
`T` either way. -/
theorem simulates_selectPassive (m : Modulation) (initData : Bytes) :
    Act.Simulates (Paired K L) (selectPassive m initData) (selectPassive m initData) := by
  refine (simulates_ensureSupported m).bind fun brty => simulates_get_bind fun k l l' hk => ?_
  have htimeout : T (if k.infiniteSelect then .infinite else k.commandTimeout) := by
    cases k.infiniteSelect with
    | true => exact h.endless
    | false => exact h.usual hk
  refine (simulates_transceive h _ htimeout).bind fun reply => ?_
  split
  · exact Act.simulates_pure _
  · exact Act.simulates_pure _
  · exact (simulates_decodeTarget _ m).bind fun t => simulates_remember t
  · exact Act.simulates_throw _

/-- A round ends at the same modulation over both links. -/
theorem simulates_pollOnce (ms : List Modulation) :
    Act.Simulates (Paired K L) (pollOnce ms) (pollOnce ms) := by
  induction ms with
  | nil => exact Act.simulates_pure _
  | cons m ms ih =>
      refine (simulates_selectPassive h m []).attempt.bind fun found => ?_
      split
      · exact Act.simulates_pure _
      · exact ih
      · exact ih
      · exact Act.simulates_throw _

/-- Both links are polled for the same number of rounds. -/
theorem simulates_pollRounds (ms : List Modulation) (n : Nat) :
    Act.Simulates (Paired K L) (pollRounds ms n) (pollRounds ms n) := by
  induction n with
  | zero => exact Act.simulates_pure _
  | succ n ih =>
      refine (simulates_pollOnce h ms).bind fun found => ?_
      cases found with
      | some t => exact Act.simulates_pure _
      | none => exact ih

/-- Polling by selecting switches unbounded selection off and on again. -/
theorem simulates_softwarePoll (ms : List Modulation) (pollNr : UInt8)
    (hK : ∀ unbounded unbounded' ms, K unbounded ms → K unbounded' ms) :
    Act.Simulates (Paired K L) (softwarePoll ms pollNr) (softwarePoll ms pollNr) := by
  refine simulates_get_bind fun k l l' _ => ?_
  have hset (enable : Bool) : Act.Simulates (Paired K L) (setBool .infiniteSelect enable)
      (setBool .infiniteSelect enable) :=
    simulates_setBool h _ enable fun _ unbounded ms => hK unbounded enable ms
  refine .optionally (hset false) ?_
  refine (simulates_pollRounds h ms (rounds pollNr)).attempt.bind fun found => ?_
  exact .optionally (hset true) (Act.simulates_ofExcept found)

omit h [ChipLink τ] [ChipLink τ'] in
/-- What a chip reports of a poll of its own does not depend on the link. -/
theorem simulates_readAutoPoll (reply : Bytes) :
    Act.Simulates (Paired K L) (readAutoPoll reply) (readAutoPoll reply) := by
  unfold readAutoPoll
  split
  · exact Act.simulates_pure _
  · exact Act.simulates_pure _
  · refine (Act.simulates_ofOption _ _).bind fun m => ?_
    refine (Act.simulates_require _ _).bind fun _ => ?_
    split
    · exact Act.simulates_throw _
    · exact (simulates_decodeTarget _ m).bind fun t => simulates_remember t
  · exact Act.simulates_throw _

theorem simulates_autoPollFor (types : Bytes) (pollNr period : UInt8) {t : Timeout} (ht : T t) :
    Act.Simulates (Paired K L) (autoPollFor types pollNr period t)
      (autoPollFor types pollNr period t) :=
  (simulates_transceive h _ ht).bind fun reply => simulates_readAutoPoll reply

/-- A poll by the chip, where the time that it is given is within `T`. -/
theorem simulates_autoPoll (ms : List Modulation) (pollNr period : UInt8)
    (ht : ∀ t ∈ autoPollTimeout? ms.length pollNr period, T t) :
    Act.Simulates (Paired K L) (autoPoll ms pollNr period) (autoPoll ms pollNr period) := by
  refine (Act.simulates_ofOption _ _).bind fun types => ?_
  cases htimeout : autoPollTimeout? ms.length pollNr period with
  | none => exact Act.simulates_pure none
  | some t => exact simulates_autoPollFor h types pollNr period (ht t htimeout)

/-- A poll, whichever way both chips poll. -/
theorem simulates_pollTarget (ms : List Modulation) (pollNr period : UInt8)
    (ht : ∀ t ∈ autoPollTimeout? ms.length pollNr period, T t)
    (hK : ∀ unbounded unbounded' ms, K unbounded ms → K unbounded' ms) :
    Act.Simulates (Paired K L) (pollTarget ms pollNr period) (pollTarget ms pollNr period) := by
  refine (Act.simulates_require _ _).bind fun _ => simulates_get_bind fun _ _ _ _ => ?_
  exact .ite (simulates_softwarePoll h ms pollNr hK) (simulates_autoPoll h ms pollNr period ht)

omit h [ChipLink τ] [ChipLink τ'] in
theorem simulates_checkGeneralBytes (general : Bytes) :
    Act.Simulates (Paired K L) (checkGeneralBytes general) (checkGeneralBytes general) :=
  .ite ((Act.simulates_log _ _ _).bind fun _ => Act.simulates_throw _) (Act.simulates_pure _)

/-- Both chips jump for the same target, or refuse the general bytes before any exchange. -/
theorem simulates_selectDep (mode : DepMode) (rate : BaudRate) (initiator : Option DepInfo)
    {t : Timeout} (ht : T t) :
    Act.Simulates (Paired K L) (selectDep mode rate initiator t)
      (selectDep mode rate initiator t) := by
  refine (Act.simulates_ofOption _ _).bind fun modeByte => ?_
  refine (Act.simulates_ofOption _ _).bind fun baudByte => ?_
  -- behind the general bytes the selection is the same, whether there are any or not
  have hrest : Act.Simulates (Paired K L)
      (do
        let polls := mode = .passive ∧ rate ≠ .kbps106
        let reply ← transceive (jumpForDep modeByte baudByte polls initiator) t
        remember (← decodeDepTarget (reply.drop 1) mode rate))
      (do
        let polls := mode = .passive ∧ rate ≠ .kbps106
        let reply ← transceive (jumpForDep modeByte baudByte polls initiator) t
        remember (← decodeDepTarget (reply.drop 1) mode rate)) := by
    refine (simulates_transceive h _ ht).bind fun reply => ?_
    refine ((Act.simulates_beside _ _).bind fun _ => Act.simulates_pure _).bind fun t => ?_
    exact simulates_remember t
  cases initiator with
  | none => exact hrest
  | some i => exact (simulates_checkGeneralBytes i.generalBytes).bind fun _ => hrest

/-- The target is forgotten before the command goes out, so on both sides even if that fails. -/
theorem simulates_deselect : Act.Simulates (Paired K L) deselect deselect := by
  refine (simulates_modify fun _ _ _ h => ⟨rfl, h.known, h.link⟩).bind fun _ => ?_
  exact simulates_command h _

omit h [ChipLink τ] [ChipLink τ'] in
theorem simulates_fit (capacity : Nat) (data : Bytes) :
    Act.Simulates (Paired K L) (fit capacity data) (fit capacity data) :=
  .ite ((Act.simulates_log _ _ _).bind fun _ => (Act.simulates_throw _).bind fun _ =>
    Act.simulates_pure _) (Act.simulates_pure _)

theorem simulates_transceiveBytes (tx : Bytes) (capacity : Nat) {t : Timeout} (ht : T t) :
    Act.Simulates (Paired K L) (transceiveBytes tx capacity t) (transceiveBytes tx capacity t) :=
  simulates_get_bind fun _ _ _ _ =>
    (simulates_transceive h _ ht).bind fun _ => simulates_fit _ _

/-- The framing of bits is put back on both sides, whatever became of the exchange. -/
theorem simulates_transceiveBits (tx : BitFrame) (capacity : Nat) :
    Act.Simulates (Paired K L) (transceiveBits tx capacity) (transceiveBits tx capacity) := by
  refine simulates_get_bind fun _ _ _ _ => (Act.simulates_require _ _).bind fun _ => ?_
  refine (Act.simulates_require _ _).bind fun _ => ?_
  refine (simulates_writeRegister h _ _).bind fun _ => ?_
  refine (simulates_exchange h _).attempt.bind fun exchanged => ?_
  refine .optionally (simulates_writeRegister h _ _) ?_
  refine (Act.simulates_ofExcept exchanged).bind fun reply => ?_
  refine (simulates_fit _ _).bind fun data => (simulates_readRegister h _).bind fun control => ?_
  exact Act.simulates_pure _

theorem simulates_transceiveBytesTimed (tx : Bytes) (capacity : Nat) :
    Act.Simulates (Paired K L) (transceiveBytesTimed tx capacity)
      (transceiveBytesTimed tx capacity) := by
  refine simulates_get_bind fun _ _ _ _ => (Act.simulates_require _ _).bind fun _ => ?_
  refine (simulates_command h _).bind fun _ => (simulates_exchange h _).bind fun reply => ?_
  refine (simulates_fit _ _).bind fun data => (simulates_exchange h _).bind fun counter => ?_
  refine (Act.simulates_ofOption _ _).bind fun count => ?_
  exact simulates_get_bind fun _ _ _ _ => Act.simulates_pure _

/-- Both chips ask about the same target, or about none. -/
theorem simulates_targetIsPresent (target : Option Target) :
    Act.Simulates (Paired K L) (targetIsPresent target) (targetIsPresent target) := by
  refine simulates_get_bind fun k _ _ _ => ?_
  rw [withLink_current?, withLink_current?]
  cases k.current? with
  | none => exact (Act.simulates_log _ _ _).bind fun _ => Act.simulates_throw _
  | some current =>
      refine .ite ((Act.simulates_log _ _ _).bind fun _ => (Act.simulates_throw _).bind fun _ => ?_)
        ?_
      all_goals
        refine (simulates_exchange h _).bind fun reply => .ite ?_ (Act.simulates_pure _)
        refine (simulates_modify fun _ _ _ h => ⟨rfl, h.known, h.link⟩).bind fun _ => ?_
        exact Act.simulates_throw _

/-! ## The target -/

omit h [ChipLink τ] [ChipLink τ'] in
theorem simulates_disguise (t : Target) :
    Act.Simulates (Paired K L) (disguise t) (disguise t) := by
  unfold disguise
  cases t.info with
  | iso14443a a => exact Act.simulates_pure _
  | felica f => exact Act.simulates_pure _
  | dep d => exact (simulates_checkGeneralBytes _).bind fun _ => Act.simulates_pure _
  | _ => exact Act.simulates_throw _

/-- The same target beside paired chips. -/
def Beside (K : Bool → Int → Prop) (L : τ → τ' → Prop) (s : Target × Chip τ)
    (s' : Target × Chip τ') : Prop :=
  s.1 = s'.1 ∧ Paired K L s.2 s'.2

omit h [ChipLink τ] [ChipLink τ'] in
/-- Both chips may go on beside the same target. -/
theorem simulates_besideTarget {a : Op (Chip τ) α} {b : Op (Chip τ') α}
    (hab : Act.Simulates (Paired K L) a b) :
    Act.Simulates (Beside K L) (besideTarget a) (besideTarget b) := by
  intro s s' ⟨htarget, hchip⟩
  obtain ⟨hresult, hstate⟩ := hab _ _ hchip
  exact ⟨hresult, htarget, hstate⟩

/-- Both chips are disguised as the same target, and the target takes the same speed. -/
theorem simulates_targetInit (capacity : Nat) {t : Timeout} (ht : T t) :
    Act.Simulates (Beside K L) (targetInit capacity t) (targetInit capacity t) := by
  refine .get_bind fun s s' hs => ?_
  obtain ⟨target, c⟩ := s
  obtain ⟨target', c'⟩ := s'
  obtain ⟨rfl, hc⟩ := hs
  refine (simulates_besideTarget (simulates_disguise target)).bind fun d => ?_
  refine (simulates_besideTarget (simulates_modify fun _ _ _ h => ⟨rfl, h.known, h.link⟩)).bind
    fun _ => ?_
  -- the command names the kind of chip, which the hosts agree on
  have hkind : c.kind = c'.kind := congrArg kind hc.host
  change Act.Simulates _ (besideTarget (transceive (d.command c.kind) t) >>= _)
    (besideTarget (transceive (d.command c'.kind) t) >>= _)
  rw [hkind]
  refine (simulates_besideTarget (simulates_transceive h _ ht)).bind fun reply => ?_
  cases reply with
  | nil => exact Act.simulates_throw _
  | cons activated first =>
      refine (Act.simulates_modify fun s s' hs => ⟨?_, hs.2⟩).bind fun _ =>
        simulates_besideTarget (simulates_fit _ _)
      exact congrArg (fun t : Target => { t with baudRate := activatedRate activated }) hs.1

theorem simulates_targetSendBytes (tx : Bytes) {t : Timeout} (ht : T t) :
    Act.Simulates (Paired K L) (targetSendBytes tx t) (targetSendBytes tx t) :=
  (simulates_transceive h _ ht).bind fun _ => Act.simulates_pure _

theorem simulates_targetReceiveBytes (capacity : Nat) {t : Timeout} (ht : T t) :
    Act.Simulates (Paired K L) (targetReceiveBytes capacity t) (targetReceiveBytes capacity t) :=
  (simulates_transceive h _ ht).bind fun _ => simulates_fit _ _

/-- Which commands end the present role depends on the role alone. -/
theorem simulates_idle : Act.Simulates (Paired K L) idle idle := by
  refine simulates_get_bind fun k _ _ _ => ?_
  rw [withLink_role, withLink_role]
  have hend : Act.Simulates (Paired K L)
      (modify fun c => { c with current? := none, role := .idle } : Op (Chip τ) PUnit)
      (modify fun c => { c with current? := none, role := .idle }) :=
    simulates_modify fun _ _ _ h => ⟨rfl, h.known, h.link⟩
  cases k.role with
  | initiator =>
      exact (simulates_command h _).bind fun _ => (simulates_command h _).bind fun _ => hend
  | target => exact (simulates_command h _).bind fun _ => hend
  | idle => exact hend

end Chip

end NearField.Pn53x
