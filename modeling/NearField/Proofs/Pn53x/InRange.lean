import NearField.Proofs.Pn53x.Guarded
import NearField.Proofs.Pn53x.Reading

/-!
# The chip layer stays in range

The operations of the chip layer that take accesses on replies once more, over a guarded link, with
each of these accesses checked: what follows the status byte of a reply, and the descriptions of
targets.  A slice behind the status byte counts on the byte being there, and it is, since an
exchange gives no empty reply to the commands that such a byte is due to (`gives_transceive`).

Every call passes (`passes_call`), and so does every other operation (`passes_operation`).  So
operations over sound guards get through, whatever fails on their way (`getsThrough_of_sound`).
-/

namespace NearField.Pn53x

variable {τ α : Type}

/-- Where a status byte is due, no empty reply is accepted. -/
theorem answer_ne_nil {code : UInt8} {reply reply' : Bytes} (hcode : hasStatusByte code = true)
    (h : answer code reply = .ok reply') : reply' ≠ [] := by
  unfold answer at h
  rw [if_pos hcode] at h
  split at h
  · cases h
  · split at h <;> cases h
    exact List.cons_ne_nil _ _

namespace Chip

variable [ChipLink τ]

/-- A reply to a command with a status byte has that byte at least. -/
theorem gives_transceive {code : UInt8} (hcode : hasStatusByte code = true) (params : Bytes)
    (t : Timeout) :
    Act.Gives (· ≠ []) (transceive (code :: params) t : Op (Chip τ) Bytes) := by
  rw [transceive_eq]
  refine .after fun _ => .after fun _ => .after fun reply => ?_
  intro c reply' h
  rw [(accept_run code reply c).1] at h
  exact answer_ne_nil hcode h

/-- So has one that is waited for as long as usual. -/
theorem gives_exchange {code : UInt8} (hcode : hasStatusByte code = true) (params : Bytes) :
    Act.Gives (· ≠ []) (exchange (code :: params) : Op (Chip τ) Bytes) :=
  .after fun _ => gives_transceive hcode params _

end Chip

namespace Guarded

open Chip Checked

variable {g : Guards τ} [ChipLink τ]

/-! ## Operations with accesses -/

/-- What follows the status byte of a reply, if it fits. -/
def payload (capacity : Nat) (reply : Bytes) : Checked (Chip (Guarded g)) Bytes := do
  let data ← slice reply 1 reply.length
  plain (fit capacity data)

/-- Selects one passive target. -/
def selectPassive (m : Modulation) (initData : Bytes) :
    Checked (Chip (Guarded g)) (Option Target) := do
  let brty ← plain (ensureSupported m)
  let c ← get
  let timeout := if c.infiniteSelect then .infinite else c.commandTimeout
  match ← plain (transceive (Command.listPassiveTarget 1 brty initData) timeout) with
  | [] | 0 :: _ => return none
  | _ :: _ :: data => plain (remember (← Reading.decodeTarget data m))
  | [_] => throw (.error .io)

/-- Selects modulations one after the other until a target answers. -/
def pollOnce : List Modulation → Checked (Chip (Guarded g)) (Option Target)
  | [] => pure none
  | m :: ms => do
    match ← attempt (selectPassive m []) with
    | .ok (some t) => return some t
    | .ok none | .error .timeout => pollOnce ms
    | .error e => throw (.error e)

/-- Polls round after round until a target answers. -/
def pollRounds (ms : List Modulation) : Nat → Checked (Chip (Guarded g)) (Option Target)
  | 0 => pure none
  | n + 1 => do
    match ← pollOnce ms with
    | some t => return some t
    | none => pollRounds ms n

/-- Polls by selecting. -/
def softwarePoll (ms : List Modulation) (pollNr : UInt8) :
    Checked (Chip (Guarded g)) (Option Target) := do
  let saved := (← get).infiniteSelect
  if saved then plain (setBool .infiniteSelect false)
  let found ← attempt (pollRounds ms (rounds pollNr))
  if saved then plain (setBool .infiniteSelect true)
  Act.ofExcept (found.mapError .error)

/-- Reads the answer of a chip that polled by itself.  The length that it claims is tested, so only
the description is read with accesses. -/
def readAutoPoll : Bytes → Checked (Chip (Guarded g)) (Option Target)
  | [] | 0 :: _ => pure none
  | _ :: ty :: len :: rest => do
    let m ← lift (Act.ofOption .deviceNotSupported (autoPollModulation? ty))
    lift (Act.require (len.toNat ≤ rest.length) .io)
    match rest.take len.toNat with
    | [] => throw (.error .io)
    | _ :: data => plain (remember (← Reading.decodeTarget data m))
  | _ => throw (.error .io)

/-- Lets the chip poll by itself, if there is a time to give it. -/
def autoPoll (ms : List Modulation) (pollNr period : UInt8) :
    Checked (Chip (Guarded g)) (Option Target) := do
  let types ← lift (Act.ofOption .invalidArgument ((ms.take autoPollTypes).mapM autoPollType?))
  match autoPollTimeout? ms.length pollNr period with
  | some timeout =>
    readAutoPoll (← plain (transceive (inAutoPoll :: pollNr :: period :: types) timeout))
  | none => return none

/-- Polls for a target. -/
def pollTarget (ms : List Modulation) (pollNr period : UInt8) :
    Checked (Chip (Guarded g)) (Option Target) := do
  lift (Act.require (!ms.isEmpty && pollNr != 0 && period != 0) .invalidArgument)
  if (← get).kind ≠ .pn532 then softwarePoll ms pollNr else autoPoll ms pollNr period

/-- Selects a peer device. -/
def selectDep (mode : DepMode) (baudRate : BaudRate) (initiator : Option DepInfo)
    (timeout : Timeout) : Checked (Chip (Guarded g)) (Option Target) := do
  let modeByte ← lift (Act.ofOption .invalidArgument (depModeByte? mode))
  let baudByte ← lift (Act.ofOption .invalidArgument (depBaudByte? baudRate))
  if let some i := initiator then plain (checkGeneralBytes i.generalBytes)
  let polls := mode = .passive ∧ baudRate ≠ .kbps106
  let reply ← plain (transceive (jumpForDep modeByte baudByte polls initiator) timeout)
  plain (remember (← Reading.decodeDepTarget (reply.drop 1) mode baudRate))

/-- Exchanges bytes. -/
def transceiveBytes (tx : Bytes) (capacity : Nat) (timeout : Timeout) :
    Checked (Chip (Guarded g)) Bytes := do
  let head := if (← get).easyFraming then [inDataExchange, 0x01] else [inCommunicateThru]
  payload capacity (← plain (transceive (head ++ tx) timeout))

/-- Exchanges a raw frame of bits; the bytes that go out are a slice as well. -/
def transceiveBits (tx : BitFrame) (capacity : Nat) : Checked (Chip (Guarded g)) BitFrame := do
  lift (Act.require ((← get).parity && tx.parity?.isNone) .notImplemented)
  let size := (tx.bits + 7) / 8
  lift (Act.require (size ≠ 0 && size ≤ tx.data.length) .invalidArgument)
  let lastBits := UInt8.ofNat (tx.bits % 8)
  plain (Chip.writeRegister regBitFraming (lastBits &&& maskLastBits))
  let out ← slice tx.data 0 size
  let exchanged ← attempt (plain (exchange (inCommunicateThru :: out)))
  if lastBits ≠ 0 then plain (Chip.writeRegister regBitFraming 0x00)
  let data ← payload capacity (← Act.ofExcept (exchanged.mapError .error))
  let rxLastBits := (← plain (Chip.readRegister regControl)) &&& maskLastBits
  return ⟨data, countBits data.length rxLastBits, none⟩

/-- Exchanges raw bytes and measures the time. -/
def transceiveBytesTimed (tx : Bytes) (capacity : Nat) :
    Checked (Chip (Guarded g)) (Bytes × Nat) := do
  lift (Act.require (!(← get).easyFraming) .notImplemented)
  plain (command timerSetup)
  let data ← payload capacity (← plain (exchange (inCommunicateThru :: tx)))
  let counter ← plain (exchange (Command.readRegisters [regTimerCounterHigh, regTimerCounterLow]))
  let count ← lift (Act.ofOption .io (counter? counter))
  return (data, 0xFFFF - count - (← get).timerCorrection.toNat)

/-- Waits for a command of the initiator. -/
def targetReceiveBytes (capacity : Nat) (timeout : Timeout) :
    Checked (Chip (Guarded g)) Bytes := do
  payload capacity (← plain (transceive [tgGetData] timeout))

/-- Runs a call.  The others read replies by their patterns and take no accesses. -/
def call : Call α → Checked (Chip (Guarded g)) α
  | .selectPassive m data => selectPassive m data
  | .pollTarget ms rounds period => pollTarget ms rounds period
  | .selectDep mode rate initiator timeout => selectDep mode rate initiator timeout
  | .transceiveBytes tx capacity timeout => transceiveBytes tx capacity timeout
  | .transceiveBits tx capacity => transceiveBits tx capacity
  | .transceiveBytesTimed tx capacity => transceiveBytesTimed tx capacity
  | .targetReceiveBytes capacity timeout => targetReceiveBytes capacity timeout
  | other => plain other.run

/-- Runs an operation.  If it fails it is over, but an access out of range stops the run. -/
def operation : Operation → Checked (Chip (Guarded g)) Unit
  | .call c => do let _ ← attempt (call c.2)
  | other => do
    modify other.run
    Act.require (← get).link.intact .outOfRange

/-- Runs operations one after the other. -/
def runAll : List Operation → Checked (Chip (Guarded g)) Unit
  | [] => pure ()
  | op :: ops => do
    operation op
    runAll ops

/-! ## The operations pass -/

section Replies

-- what is read of a reply has no part in what the link is
omit [ChipLink τ]

/-- What follows the status byte begins at place one, which is no further than the end. -/
theorem passes_payload {reply : Bytes} (hne : reply ≠ []) (capacity : Nat) :
    Passes Around (payload capacity reply : Checked (Chip (Guarded g)) Bytes)
      (fit capacity (reply.drop 1)) := by
  have hlen : 1 ≤ reply.length := List.length_pos_iff.mpr hne
  rw [payload, slice_length hlen, pure_bind]
  exact passes_plain (simulates_fit _ _)

/-- An empty reply would not do. -/
example (c : Chip (Guarded g)) : (payload 8 [] c).result = .error .outOfRange := rfl

/-- A target is described within the bytes that the chip gave for it. -/
theorem passes_remember (data : Bytes) (m : Modulation) :
    Passes Around (do
        let t ← Reading.decodeTarget data m
        plain (remember t) : Checked (Chip (Guarded g)) (Option Target))
      (do
        let t ← decodeTarget data m
        remember t) :=
  (Reading.passes_decodeTarget data m).bind fun t => passes_plain (simulates_remember t)

/-- Both chips go on by what the host knows of both. -/
theorem passes_get_bind {f : Chip (Guarded g) → Checked (Chip (Guarded g)) α}
    {f' : Chip τ → Op (Chip τ) α}
    (h : ∀ (k : Chip Unit) s l, Passes Around (f (k.withLink s)) (f' (k.withLink l))) :
    Passes Around (get >>= f) (get >>= f') := by
  refine .get_bind fun c c' hc => ?_
  rw [Paired.eq_withLink hc]
  exact h c.host c.link c'.link

/-- A reply to a poll is looked at as far as its count and lengths allow. -/
theorem passes_readAutoPoll (reply : Bytes) :
    Passes Around (readAutoPoll reply : Checked (Chip (Guarded g)) _)
      (Chip.readAutoPoll reply) := by
  unfold readAutoPoll Chip.readAutoPoll
  rcases reply with _ | ⟨count, rest⟩
  · exact passes_pure none
  by_cases hnone : count = 0
  · subst hnone
    exact passes_pure none
  rcases rest with _ | ⟨ty, _ | ⟨len, rest⟩⟩
  · simp only [List.cons.injEq, hnone, false_and, imp_self, implies_true]
    exact passes_throw _
  · simp only [List.cons.injEq, hnone, false_and, imp_self, implies_true]
    exact passes_throw _
  · simp only
    refine (passes_ofOption _ _).bind fun m => (passes_require _ _).bind fun _ => ?_
    cases rest.take len.toNat with
    | nil => exact passes_throw _
    | cons number data => exact passes_remember data m

end Replies

variable (h : g.Sound)
include h

/-- An exchange takes no access of its own; those of the link pass. -/
theorem passes_transceive (cmd : Bytes) (t : Timeout) :
    Passes Around (plain (transceive cmd t : Op (Chip (Guarded g)) Bytes)) (transceive cmd t) :=
  passes_plain (simulates_transceive (interchange_over h) cmd trivial)

theorem passes_exchange (cmd : Bytes) :
    Passes Around (plain (exchange cmd : Op (Chip (Guarded g)) Bytes)) (exchange cmd) :=
  passes_plain (simulates_exchange (interchange_over h) cmd)

/-- Nor do switches. -/
theorem passes_setBool (p : Property) (enable : Bool) :
    Passes Around (plain (setBool p enable : Op (Chip (Guarded g)) Unit)) (setBool p enable) :=
  passes_plain (simulates_setBool (interchange_over h) p enable fun _ _ _ hk => hk)

/-- **A selection stays in range**: its reply has the count before the description is looked for. -/
theorem passes_selectPassive (m : Modulation) (initData : Bytes) :
    Passes Around (selectPassive m initData : Checked (Chip (Guarded g)) _)
      (Chip.selectPassive m initData) := by
  have hsupported : Passes Around (plain (ensureSupported m : Op (Chip (Guarded g)) UInt8))
      (ensureSupported m) := passes_plain (simulates_ensureSupported m)
  refine hsupported.bind fun brty => passes_get_bind fun k s l => ?_
  refine (passes_transceive h _ _).bind fun reply => ?_
  rcases reply with _ | ⟨count, rest⟩
  · exact passes_pure none
  by_cases hnone : count = 0
  · subst hnone
    exact passes_pure none
  rcases rest with _ | ⟨number, data⟩
  · simp only
    exact passes_throw _
  · simp only
    exact passes_remember data m

/-- By induction on the entries. -/
theorem passes_pollOnce (ms : List Modulation) :
    Passes Around (pollOnce ms : Checked (Chip (Guarded g)) _) (Chip.pollOnce ms) := by
  induction ms with
  | nil => exact passes_pure none
  | cons m ms ih =>
      refine (passes_selectPassive h m []).attempt.bind fun found => ?_
      rcases found with e | _ | t
      · cases e with
        | timeout => exact ih
        | _ => exact passes_throw _
      · exact ih
      · exact passes_pure _

/-- By induction on the rounds. -/
theorem passes_pollRounds (ms : List Modulation) (n : Nat) :
    Passes Around (pollRounds ms n : Checked (Chip (Guarded g)) _) (Chip.pollRounds ms n) := by
  induction n with
  | zero => exact passes_pure none
  | succ n ih =>
      refine (passes_pollOnce h ms).bind fun found => ?_
      cases found with
      | some t => exact passes_pure _
      | none => exact ih

/-- The switch is set around the rounds without an access. -/
theorem passes_softwarePoll (ms : List Modulation) (pollNr : UInt8) :
    Passes Around (softwarePoll ms pollNr : Checked (Chip (Guarded g)) _)
      (Chip.softwarePoll ms pollNr) := by
  refine passes_get_bind fun k s l => .optionally (passes_setBool h _ _) ?_
  refine (passes_pollRounds h ms (rounds pollNr)).attempt.bind fun found => ?_
  exact .optionally (passes_setBool h _ _) (passes_ofExcept found)

/-- A chip that polls by itself is read by its reply. -/
theorem passes_autoPoll (ms : List Modulation) (pollNr period : UInt8) :
    Passes Around (autoPoll ms pollNr period : Checked (Chip (Guarded g)) _)
      (Chip.autoPoll ms pollNr period) := by
  refine (passes_ofOption _ _).bind fun types => ?_
  cases autoPollTimeout? ms.length pollNr period with
  | none => exact passes_pure none
  | some t => exact (passes_transceive h _ t).bind fun reply => passes_readAutoPoll reply

/-- Whichever way a chip is polled, it stays in range. -/
theorem passes_pollTarget (ms : List Modulation) (pollNr period : UInt8) :
    Passes Around (pollTarget ms pollNr period : Checked (Chip (Guarded g)) _)
      (Chip.pollTarget ms pollNr period) := by
  refine (passes_require _ _).bind fun _ => passes_get_bind fun k s l => ?_
  exact .ite (passes_softwarePoll h ms pollNr) (passes_autoPoll h ms pollNr period)

/-- The description of a peer begins behind the status byte, which is there. -/
theorem passes_selectDep (mode : DepMode) (rate : BaudRate) (initiator : Option DepInfo)
    (t : Timeout) :
    Passes Around (selectDep mode rate initiator t : Checked (Chip (Guarded g)) _)
      (Chip.selectDep mode rate initiator t) := by
  refine (passes_ofOption _ _).bind fun modeByte => (passes_ofOption _ _).bind fun baudByte => ?_
  have hrest : Passes Around
      (do
        let polls := mode = .passive ∧ rate ≠ .kbps106
        let reply ← plain (transceive (jumpForDep modeByte baudByte polls initiator) t)
        plain (remember (← Reading.decodeDepTarget (reply.drop 1) mode rate)) :
          Checked (Chip (Guarded g)) _)
      (do
        let polls := mode = .passive ∧ rate ≠ .kbps106
        let reply ← transceive (jumpForDep modeByte baudByte polls initiator) t
        remember (← decodeDepTarget (reply.drop 1) mode rate)) := by
    refine (passes_transceive h _ t).bind fun reply => ?_
    refine (Reading.passes_decodeDepTarget _ mode rate).bind fun target => ?_
    exact passes_plain (simulates_remember target)
  cases initiator with
  | none => exact hrest
  | some i =>
      exact (passes_plain (simulates_checkGeneralBytes i.generalBytes)).bind fun _ => hrest

/-- What was received begins behind the status byte. -/
theorem passes_transceiveBytes (tx : Bytes) (capacity : Nat) (t : Timeout) :
    Passes Around (transceiveBytes tx capacity t : Checked (Chip (Guarded g)) _)
      (Chip.transceiveBytes tx capacity t) := by
  refine passes_get_bind fun k s l => ?_
  have hpayload {code : UInt8} (hcode : hasStatusByte code = true) (params : Bytes) :
      Passes Around (plain (transceive (code :: params) t : Op (Chip (Guarded g)) _) >>=
        payload capacity) (transceive (code :: params) t >>= fun reply =>
          fit capacity (reply.drop 1)) :=
    (passes_transceive h _ t).bind_gives (gives_transceive hcode params t) fun reply hne =>
      passes_payload hne capacity
  -- a status byte is due to the command with and without easy framing
  change Passes Around (plain (transceive ((if k.easyFraming then _ else _) ++ tx) t) >>= _)
    (transceive ((if k.easyFraming then _ else _) ++ tx) t >>= _)
  cases k.easyFraming with
  | true => exact hpayload rfl _
  | false => exact hpayload rfl _

/-- So do the bits, and the register that counts them is read in full. -/
theorem passes_transceiveBits (tx : BitFrame) (capacity : Nat) :
    Passes Around (transceiveBits tx capacity : Checked (Chip (Guarded g)) _)
      (Chip.transceiveBits tx capacity) := by
  refine passes_get_bind fun k s l => (passes_require _ _).bind fun _ => ?_
  -- the test of the number of bytes is what the slice to be sent counts on
  refine (passes_require _ _).bind_gives (Act.gives_require _ _) fun _ hsize => ?_
  have hroom : (tx.bits + 7) / 8 ≤ tx.data.length :=
    of_decide_eq_true (Bool.and_eq_true_iff.mp hsize).2
  have hwrite (r : UInt16) (value : UInt8) :
      Passes Around (plain (Chip.writeRegister r value : Op (Chip (Guarded g)) Unit))
        (Chip.writeRegister r value) :=
    passes_plain (simulates_writeRegister (interchange_over h) r value)
  refine (hwrite _ _).bind fun _ => ?_
  rw [slice_eq (Nat.zero_le _) hroom, pure_bind, List.drop_zero]
  refine (passes_exchange h _).attempt.bind_gives (gives_exchange rfl _).attempt
    fun exchanged hne => ?_
  refine .optionally (hwrite _ _) ?_
  refine (passes_ofExcept exchanged).bind_gives (Act.gives_ofExcept hne) fun reply hne => ?_
  refine (passes_payload hne capacity).bind fun data => ?_
  have hread : Passes Around (plain (Chip.readRegister regControl : Op (Chip (Guarded g)) UInt8))
      (Chip.readRegister regControl) :=
    passes_plain (simulates_readRegister (interchange_over h) regControl)
  exact hread.bind fun control => passes_pure _

/-- Timed exchanges read registers whose replies are long enough. -/
theorem passes_transceiveBytesTimed (tx : Bytes) (capacity : Nat) :
    Passes Around (transceiveBytesTimed tx capacity : Checked (Chip (Guarded g)) _)
      (Chip.transceiveBytesTimed tx capacity) := by
  refine passes_get_bind fun k s l => (passes_require _ _).bind fun _ => ?_
  have hsetup : Passes Around (plain (command timerSetup : Op (Chip (Guarded g)) Unit))
      (command timerSetup) := passes_plain (simulates_command (interchange_over h) _)
  refine hsetup.bind fun _ => ?_
  refine (passes_exchange h _).bind_gives (gives_exchange rfl _) fun reply hne => ?_
  refine (passes_payload hne capacity).bind fun data => (passes_exchange h _).bind fun counter => ?_
  exact (passes_ofOption _ _).bind fun count => passes_get_bind fun k s l => passes_pure _

/-- What a target receives begins behind the status byte. -/
theorem passes_targetReceiveBytes (capacity : Nat) (t : Timeout) :
    Passes Around (targetReceiveBytes capacity t : Checked (Chip (Guarded g)) _)
      (Chip.targetReceiveBytes capacity t) := by
  refine (passes_transceive h _ t).bind_gives (gives_transceive rfl _ t) fun reply hne => ?_
  exact passes_payload hne capacity

/-- **Every call stays in range.** -/
theorem passes_call (call : Call α) :
    Passes Around (Guarded.call call : Checked (Chip (Guarded g)) α) call.run := by
  cases call with
  | selectPassive m data => exact passes_selectPassive h m data
  | pollTarget ms rounds period => exact passes_pollTarget h ms rounds period
  | selectDep mode rate initiator t => exact passes_selectDep h mode rate initiator t
  | transceiveBytes tx capacity t => exact passes_transceiveBytes h tx capacity t
  | transceiveBits tx capacity => exact passes_transceiveBits h tx capacity
  | transceiveBytesTimed tx capacity => exact passes_transceiveBytesTimed h tx capacity
  | targetReceiveBytes capacity t => exact passes_targetReceiveBytes h capacity t
  | _ => exact passes_plain (simulates_run (interchange_over h) _ fun _ _ => trivial)

/-! ## Runs of operations -/

theorem simulates_checkCommunication :
    Act.Simulates Over (checkCommunication : Op (Guarded g) Unit) checkCommunication := by
  refine (simulates_send h _ _).bind fun _ => (simulates_receive h _ _ _).bind fun reply => ?_
  exact .ite ((Act.simulates_log _ _ _).bind fun _ => Act.simulates_throw _) (Act.simulates_pure _)

theorem simulates_powerDown :
    Act.Simulates Around (Chip.powerDown : Op (Chip (Guarded g)) Unit) Chip.powerDown := by
  refine .get_bind fun c c' hc => ?_
  rw [show c.link = ⟨c'.link, true⟩ from hc.link]
  refine (Act.simulates_require _ _).bind fun _ => ?_
  refine (simulates_command (interchange_over h) _).bind fun _ => ?_
  exact simulates_modify fun _ _ _ hk => ⟨rfl, hk.known, hk.link⟩

theorem simulates_close :
    Act.Simulates Around (Chip.close : Act Empty (Chip (Guarded g)) Unit) Chip.close := by
  have hrelease : Act.Simulates Around
      (modify fun c => { c with link := ChipLink.close c.link } :
        Act Empty (Chip (Guarded g)) PUnit)
      (modify fun c => { c with link := ChipLink.close c.link }) :=
    Act.simulates_modify fun c c' hc =>
      ⟨hc.host, hc.known, congrArg ChipLink.close (show c.link = ⟨c'.link, true⟩ from hc.link)⟩
  refine (simulates_idle (interchange_over h)).attempt.bind fun r => ?_
  cases r with
  | ok _ => exact hrelease
  | error e => exact (Act.simulates_log _ _ _).bind fun _ => hrelease

/-- What concerns the link alone leaves it intact. -/
theorem around_run (op : Operation) {c : Chip (Guarded g)} {c' : Chip τ} (hc : Around c c') :
    Around (op.run c) (op.run c') := by
  cases op with
  | call call => exact (simulates_run (interchange_over h) call.2 (fun _ _ => trivial) c c' hc).2
  | checkCommunication => exact (simulates_onLink (simulates_checkCommunication h) c c' hc).2
  | powerDown => exact (simulates_powerDown h c c' hc).2
  | abortCommand =>
      refine (simulates_onLink (b := ChipLink.abortCommand) ?_ c c' hc).2
      rintro _ l rfl
      exact ⟨rfl, rfl⟩
  | raiseSignal =>
      exact ⟨hc.host, hc.known,
        congrArg ChipLink.raiseSignal (show c.link = ⟨c'.link, true⟩ from hc.link)⟩
  | close => exact (simulates_close h c c' hc).2

/-- So does every other operation, since it runs a call or takes no access. -/
theorem passes_operation (op : Operation) :
    Passes Around (operation op : Checked (Chip (Guarded g)) Unit) (modify op.run) := by
  have hlink (op : Operation) : Passes Around (do
      modify op.run
      Act.require (← get).link.intact .outOfRange : Checked (Chip (Guarded g)) Unit)
      (modify op.run) := by
    intro c c' hc
    have hrun := around_run h op hc
    have hintact : (op.run c).link.intact = true := congrArg Guarded.intact hrun.link
    rw [(Act.modify_bind _ _ _).1, (Act.modify_bind _ _ _).2, (Act.get_bind _ _).1,
      (Act.get_bind _ _).2, hintact]
    exact ⟨rfl, hrun⟩
  cases op with
  | call call => exact (passes_call h call.2).attempt.bind fun _ => passes_pure ()
  | _ => exact hlink _

/-- So do operations that follow each other, each from where the last one ended. -/
theorem passes_runAll (ops : List Operation) :
    Passes Around (runAll ops : Checked (Chip (Guarded g)) Unit) (modify (after ops)) := by
  induction ops with
  | nil => exact passes_pure ()
  | cons op ops ih => exact (passes_operation h op).bind fun _ => ih

end Guarded

namespace Chip

/-- A chip over its link with guards, before any access. -/
def guarded (g : Guards τ) (c : Chip τ) : Chip (Guarded g) := c.mapLink fun l => ⟨l, true⟩

/-- A chip over guards is the chip itself with its link guarded. -/
theorem eq_guarded {g : Guards τ} {c : Chip (Guarded g)} {c' : Chip τ} (h : Guarded.Around c c') :
    c = c'.guarded g := by
  have hc : c = c.host.withLink c.link := rfl
  rw [hc, h.host, h.link]
  rfl

theorem around_guarded (g : Guards τ) (c : Chip τ) : Guarded.Around (c.guarded g) c :=
  ⟨rfl, trivial, rfl⟩

variable [ChipLink τ] {g : Guards τ}

/-- Operations over guards get through, one after the other: none is stopped at an access out of
range, they leave the chip that they leave without checks, and every call that follows ends as it
does without checks. -/
def GetsThrough (g : Guards τ) : Prop :=
  ∀ (ops : List Operation) (c : Chip τ),
    (Guarded.runAll ops (c.guarded g)).result = .ok () ∧
      (Guarded.runAll ops (c.guarded g)).state = (after ops c).guarded g ∧
      ∀ (α : Type) (call : Call α), (Guarded.call call ((after ops c).guarded g)).result =
        (call.run (after ops c)).result.mapError .error

/-- **No reply leads the chip layer out of range** over sound guards. -/
theorem getsThrough_of_sound (h : g.Sound) : GetsThrough g := by
  intro ops c
  obtain ⟨hresult, hstate⟩ := Guarded.passes_runAll h ops _ c (around_guarded g c)
  refine ⟨hresult, eq_guarded hstate, fun α call => ?_⟩
  exact (Guarded.passes_call h call _ _ (around_guarded g (after ops c))).1

end Chip

end NearField.Pn53x
