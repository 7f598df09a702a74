import NearField.Proofs.Pn53x.Paired

/-!
# Calls of the chip layer

What can be asked of a chip, as syntax: a `Call α` is an operation with its arguments, and `α` is
what it answers.  Putting the chip to sleep, aborting a call and releasing the link are left
out, since they are matters of the link; an `Operation` is a call or one of these.  `results` lists
how the calls of a sequence ended.

Over links that answer exchanges alike, a sequence of calls whose timeouts stay within theirs ends
alike, call by call (`results_eq`).
-/

namespace NearField.Pn53x.Chip

/-- An operation of a chip with its arguments. -/
inductive Call : Type → Type where
  | transceive (cmd : Bytes) (timeout : Timeout) : Call Bytes
  | identify : Call Unit
  | setTimerCorrection (cycles : UInt16) : Call Unit
  | describe (e : Error) : Call (Option String)
  | initiatorInit : Call Unit
  | secureElementInit : Call Unit
  | selectPassive (m : Modulation) (data : Bytes) : Call (Option Target)
  | pollTarget (ms : List Modulation) (rounds period : UInt8) : Call (Option Target)
  | selectDep (mode : DepMode) (rate : BaudRate) (initiator : Option DepInfo)
      (timeout : Timeout) : Call (Option Target)
  | deselect : Call Unit
  | transceiveBytes (tx : Bytes) (capacity : Nat) (timeout : Timeout) : Call Bytes
  | transceiveBits (tx : BitFrame) (capacity : Nat) : Call BitFrame
  | transceiveBytesTimed (tx : Bytes) (capacity : Nat) : Call (Bytes × Nat)
  | transceiveBitsTimed (tx : BitFrame) (capacity : Nat) : Call (BitFrame × Nat)
  | targetIsPresent (t : Option Target) : Call Unit
  | targetInit (target : Target) (capacity : Nat) (timeout : Timeout) :
      Call (Except Error Bytes × Target)
  | targetSendBytes (tx : Bytes) (timeout : Timeout) : Call Nat
  | targetReceiveBytes (capacity : Nat) (timeout : Timeout) : Call Bytes
  | targetSendBits (tx : BitFrame) : Call Nat
  | targetReceiveBits (capacity : Nat) : Call BitFrame
  | setBool (p : Property) (enable : Bool) : Call Unit
  | setInt (p : Property) (value : Int) : Call Unit
  | families (mode : Mode) : Call (List Family)
  | baudRates (mode : Mode) (f : Family) : Call (List BaudRate)
  | information : Call String
  | idle : Call Unit

variable {τ τ' α : Type}

/-- Runs a call.  Playing a target answers with the target as well, which has learned its speed
even if the call failed. -/
def Call.run [ChipLink τ] : Call α → Op (Chip τ) α
  | .transceive cmd timeout => Chip.transceive cmd timeout
  | .identify => Chip.identify
  | .setTimerCorrection cycles => modify fun c => { c with timerCorrection := cycles }
  | .describe e => do return Reader.describe? (← get) e
  | .initiatorInit => Reader.initiatorInit
  | .secureElementInit => Reader.secureElementInit
  | .selectPassive m data => Reader.selectPassive m data
  | .pollTarget ms rounds period => Reader.pollTarget ms rounds period
  | .selectDep mode rate initiator timeout => Reader.selectDep mode rate initiator timeout
  | .deselect => Reader.deselect
  | .transceiveBytes tx capacity timeout => Reader.transceiveBytes tx capacity timeout
  | .transceiveBits tx capacity => Reader.transceiveBits tx capacity
  | .transceiveBytesTimed tx capacity => Reader.transceiveBytesTimed tx capacity
  | .transceiveBitsTimed tx capacity => Reader.transceiveBitsTimed tx capacity
  | .targetIsPresent t => Reader.targetIsPresent t
  | .targetInit target capacity timeout => do
    let (first, target, _) ←
      (Reader.targetInit capacity timeout).around (fun c => (target, c)) Prod.snd
    return (first, target)
  | .targetSendBytes tx timeout => Reader.targetSendBytes tx timeout
  | .targetReceiveBytes capacity timeout => Reader.targetReceiveBytes capacity timeout
  | .targetSendBits tx => Reader.targetSendBits tx
  | .targetReceiveBits capacity => Reader.targetReceiveBits capacity
  | .setBool p enable => Reader.setBool p enable
  | .setInt p value => Reader.setInt p value
  | .families mode => Reader.families mode
  | .baudRates mode f => Reader.baudRates mode f
  | .information => Reader.information
  | .idle => Reader.idle

/-- The timeouts that a call brings along: its own, the one that commands get from then on, and
that of a chip that polls by itself, if it is given one. -/
def Call.timeouts : Call α → List Timeout
  | .transceive _ timeout => [timeout]
  | .selectDep _ _ _ timeout => [timeout]
  | .transceiveBytes _ _ timeout => [timeout]
  | .targetInit _ _ timeout => [timeout]
  | .targetSendBytes _ timeout => [timeout]
  | .targetReceiveBytes _ timeout => [timeout]
  | .setInt p value => if p = .timeoutCommand then [.ofInt value] else []
  | .pollTarget ms rounds period => (autoPollTimeout? ms.length rounds period).toList
  | _ => []

/-- How calls end that are made in order, and the chip that they leave. -/
def results [ChipLink τ] : List (Sigma Call) → Chip τ → List (Sigma (Except Error)) × Chip τ
  | [], c => ([], c)
  | ⟨α, call⟩ :: calls, c =>
    let o := call.run c
    let (rest, c) := results calls o.state
    (⟨α, o.result⟩ :: rest, c)

/-- What can be done with a chip: the calls of the chip layer, the echo, and what concerns the
link alone. -/
inductive Operation where
  | call (c : Sigma Call)
  | checkCommunication
  | powerDown
  | abortCommand
  | raiseSignal
  | close

/-- The chip that an operation leaves. -/
def Operation.run [ChipLink τ] : Operation → Chip τ → Chip τ
  | .call c, chip => (c.2.run chip).state
  | .checkCommunication, chip => (onLink Pn53x.checkCommunication chip).state
  | .powerDown, chip => (Reader.powerDown chip).state
  | .abortCommand, chip => (Reader.abortCommand chip).state
  | .raiseSignal, chip => Reader.raiseSignal chip
  | .close, chip => (Reader.close chip).state

/-- The chip that operations leave, one after the other. -/
def after [ChipLink τ] (ops : List Operation) (c : Chip τ) : Chip τ :=
  ops.foldl (fun c op => op.run c) c

/-- The link is released behind the attempt to become idle. -/
theorem close_state [ChipLink τ] (c : Chip τ) :
    (close c).state = (idle c).state.mapLink ChipLink.close := by
  unfold close
  rw [(Act.attempt_bind _ _ _).2]
  cases (idle c).result <;> rfl

variable [ChipLink τ] [ChipLink τ'] {T : Timeout → Prop} {L : τ → τ' → Prop}

/-- The usual timeout is within `T`. -/
def UsualWithin (T : Timeout → Prop) (_ : Bool) (ms : Int) : Prop := T (.ofInt ms)

theorem simulates_run (h : Interchange (UsualWithin T) T L) (call : Call α)
    (ht : ∀ t ∈ call.timeouts, T t) :
    Act.Simulates (Paired (UsualWithin T) L) call.run call.run := by
  have own {t : Timeout} {call : Call α} (hcall : call.timeouts = [t])
      (ht : ∀ t ∈ call.timeouts, T t) : T t := ht t (by simp [hcall])
  -- of the timeouts only those that a call is given go to the link
  cases call with
  | transceive cmd t => exact simulates_transceive h cmd (own rfl ht)
  | identify => exact simulates_identify h
  | setTimerCorrection cycles => exact simulates_modify fun _ _ _ h => ⟨rfl, h.known, h.link⟩
  | describe e => exact simulates_get_bind fun _ _ _ _ => Act.simulates_pure _
  | initiatorInit => exact simulates_initiatorInit h
  | selectPassive m data => exact simulates_selectPassive h m data
  | pollTarget ms rounds period =>
      exact simulates_pollTarget h ms rounds period (fun t h => ht t (Option.mem_toList.mpr h))
        fun _ _ _ hk => hk
  | selectDep mode rate initiator t => exact simulates_selectDep h mode rate initiator (own rfl ht)
  | deselect => exact simulates_deselect h
  | transceiveBytes tx capacity t => exact simulates_transceiveBytes h tx capacity (own rfl ht)
  | transceiveBits tx capacity => exact simulates_transceiveBits h tx capacity
  | transceiveBytesTimed tx capacity => exact simulates_transceiveBytesTimed h tx capacity
  | targetIsPresent t => exact simulates_targetIsPresent h t
  | targetInit target capacity t =>
      intro c c' hc
      obtain ⟨hresult, htarget, hchip⟩ :=
        simulates_targetInit h capacity (own rfl ht) (target, c) (target, c') ⟨rfl, hc⟩
      have hpair := congr (congrArg Prod.mk hresult) htarget
      exact ⟨congrArg Except.ok hpair, hchip⟩
  | targetSendBytes tx t => exact simulates_targetSendBytes h tx (own rfl ht)
  | targetReceiveBytes capacity t => exact simulates_targetReceiveBytes h capacity (own rfl ht)
  | setBool p enable => exact simulates_setBool h p enable fun _ _ _ hk => hk
  | setInt p value =>
      refine simulates_setInt h p value (fun _ _ _ hk => hk) fun hp _ _ _ => ?_
      subst hp
      exact own rfl ht
  | families mode => exact simulates_get_bind fun _ _ _ _ => Act.simulates_pure _
  | baudRates mode f => exact Act.simulates_ofExcept _
  | information => exact simulates_get_bind fun _ _ _ _ => Act.simulates_pure _
  | idle => exact simulates_idle h
  | secureElementInit | transceiveBitsTimed | targetSendBits | targetReceiveBits =>
      exact Act.simulates_throw _

/-- **Calls end alike over both links**, one after the other, and the host knows the same
afterwards. -/
theorem results_eq (h : Interchange (UsualWithin T) T L) (calls : List (Sigma Call))
    (ht : ∀ call ∈ calls, ∀ t ∈ call.2.timeouts, T t) {c : Chip τ} {c' : Chip τ'}
    (hc : Paired (UsualWithin T) L c c') :
    (results calls c).1 = (results calls c').1 ∧
      Paired (UsualWithin T) L (results calls c).2 (results calls c').2 := by
  induction calls generalizing c c' with
  | nil => exact ⟨rfl, hc⟩
  | cons call calls ih =>
      obtain ⟨hresult, hstate⟩ :=
        simulates_run h call.2 (ht call List.mem_cons_self) c c' hc
      obtain ⟨hrest, hlast⟩ :=
        ih (fun call' hcall' => ht call' (List.mem_cons_of_mem _ hcall')) hstate
      have hhead := congrArg (Sigma.mk call.1) hresult
      exact ⟨congr (congrArg List.cons hhead) hrest, hlast⟩

end NearField.Pn53x.Chip
