import Mathlib.Data.List.Basic
import NearField.Proofs.Arygon.Steps
import NearField.Proofs.Pn53x.Guarded

/-!
# A serial link stays in range

What a serial link does with the bytes from its port once more, with the accesses it takes checked:
the places of the pieces of a reply, the part of the buffer that the parameters go to, and the text
that the reader gives for its firmware.  A port that succeeds in reading gives as many bytes as it
was asked for (`Exact`); which bytes these are does not matter.

Sending, receiving and asking for the firmware then pass (`sound_guards`, `passes_firmware`), also
inside the recoveries that follow an aborted wait.
-/

namespace NearField.Arygon

open Checked Link

/-- A port that succeeds in reading gives as many bytes as it was asked for. -/
def Exact (σ : Type) [SerialPort σ] : Prop :=
  ∀ (n : Nat) (t : Timeout) (watched : Bool),
    Act.Gives (fun bs : Bytes => bs.length = n)
      (SerialPort.receive n t watched : Op (Watched σ) Bytes)

namespace Guarding

variable {σ α : Type} [SerialPort σ] {t : Timeout}

/-! ## The reader itself -/

/-- Reads an answer to the firmware question; the length of the text is the reader's. -/
def firmwareText (reply : Bytes) : Checked (Link σ) String := do
  if (← slice reply 0 6) ≠ noError.take 6 then return "" else
    let digits ← slice reply 6 8
    match Hex.pairValue? (digits.getD 0 0) (digits.getD 1 0) with
    | none => return ""
    | some length =>
      if maxFirmware < length.toNat then
        Act.log .warn Log.arygonTopic ("Firmware version data truncated ("
          ++ toString length.toNat ++ " > " ++ toString maxFirmware ++ ")")
        return ""
      else return Utf8.lossy (← slice reply 8 (8 + length.toNat))

/-- Asks for the reader's firmware. -/
def firmware : Checked (Link σ) String := do
  match ← attempt (lift (onPort (SerialPort.send firmwareCommand .default))) with
  | .error _ =>
    Act.log .debug Log.arygonTopic "Unable to send ARYGON firmware command"
    return ""
  | .ok () =>
    match ← attempt (lift (read 16 .default)) with
    | .error _ =>
      Act.log .debug Log.arygonTopic "Unable to retrieve ARYGON firmware version"
      return ""
    | .ok reply => firmwareText reply

/-! ## Sending -/

/-- Checks the bytes that follow a command; as many of an error answer are compared. -/
def checkAck (timeout : Timeout) (reply : Bytes) : Checked (Link σ) Unit := do
  if Frame.isAck reply then return ()
  else if reply = (← slice unknownMode 0 reply.length) then
    Act.log .error Log.arygonTopic "Bad frame format"
    lift (read 4 timeout).ignoring
    throw (.error .io)
  else lift (fail .io "Unexpected PN53x reply!")

/-- Sends a command and waits for the acknowledgement. -/
def send (data : Bytes) (timeout : Timeout) : Checked (Link σ) Unit := do
  if data.isEmpty then lift (fail .invalidArgument "Zero-size data")
  if Frame.maxData < data.length then
    lift (fail .deviceNotSupported ("ARYGON device does not support more than "
      ++ toString Frame.maxData ++ " bytes as payload (requested: " ++ toString data.length
      ++ ")"))
  lift (onPort (SerialPort.flush false))
  let frame ← lift (Frame.encodeOp data)
  lift (reporting "Unable to transmit data (TX)"
    (onPort (SerialPort.send (chipSelector :: frame) timeout)))
  checkAck timeout (← lift (reporting "Unable to read ACK" (read Frame.ack.length timeout)))

/-! ## Receiving -/

/-- Checks the bytes that begin a reply, all of whose places are looked at. -/
def checkHeader (capacity : Nat) (timeout : Timeout) (header : Bytes) :
    Checked (Link σ) Nat := do
  let start ← slice header 0 3
  let len ← index header 3
  let check ← index header 4
  lift (Link.checkHeader capacity timeout (start ++ [len, check]))

/-- Reads what follows the header; the parameters go to the front of a buffer with some room. -/
def readContent (capacity n : Nat) (command : UInt8) (timeout : Timeout) :
    Checked (Link σ) Bytes := do
  let intro ← lift (readPiece "TFI" 2 timeout)
  let tfi ← index intro 0
  let code ← index intro 1
  if tfi ≠ Frame.chipTfi then lift (fail .io (Frame.Fault.tfi tfi).message)
  if code ≠ command + 1 then lift (fail .io (Frame.Fault.command (command + 1) code).message)
  front capacity n
  let params ← if n = 0 then pure [] else lift (readPiece "payload" n timeout)
  let trailer ← lift (readPiece "DCS" 2 timeout)
  let expected := Checksum.dcs (tfi :: code :: params)
  let check ← index trailer 0
  let post ← index trailer 1
  if check ≠ expected then lift (fail .io (Frame.Fault.dataChecksum expected check).message)
  if post ≠ Frame.postamble then lift (fail .io (Frame.Fault.postamble post).message)
  return params

/-- Waits for a reply; an aborted wait is followed by the recovery. -/
def receiveWith (recovery : Checked (Link σ) Unit) (capacity : Nat) (command : UInt8)
    (timeout : Timeout) : Checked (Link σ) Bytes := do
  if capacity = 0 then lift (fail .invalidArgument "Zero-size buffer")
  match ← attempt (lift (watching (SerialPort.receive 5 timeout true))) with
  | .ok header =>
    let n ← checkHeader capacity timeout header
    readContent capacity n command timeout
  | .error .operationAborted =>
    if let .error e ← attempt recovery then
      Act.log .debug Log.arygonTopic ("Chip did not recover after abort: " ++ e.text)
    throw (.error .operationAborted)
  | .error e => lift (fail e "Unable to receive data (RX)")

/-- Wakes a chip and asks it for an echo. -/
def recoverWith (receive : Nat → UInt8 → Timeout → Checked (Link σ) Bytes) :
    Checked (Link σ) Unit := do
  let frame ← lift (Frame.encodeOp Pn53x.Command.echo)
  lift (onPort (SerialPort.send (chipSelector :: frame) .infinite)).ignoring
  Pn53x.echoChecked send receive

/-- Waits for a reply, with some recoveries inside each other. -/
def receiveWithin : Nat → Nat → UInt8 → Timeout → Checked (Link σ) Bytes
  | 0 => receiveWith (pure ())
  | n + 1 => receiveWith (recoverWith (receiveWithin n))

/-- Sending and receiving with checks. -/
def guards : Pn53x.Guards (Link σ) where
  send := send
  receive := receiveWithin maxRecoveries

/-! ## What is given -/

omit [SerialPort σ] in
/-- A failure gives nothing to say anything of. -/
theorem gives_fail {P : α → Prop} (e : Error) (message : String) :
    Act.Gives P (fail e message : Op (Link σ) α) :=
  .after fun _ => Act.gives_throw e

omit [SerialPort σ] in
/-- A report on a failure does not change what a success gives. -/
theorem gives_reporting {P : α → Prop} {a : Op (Link σ) α} (ha : Act.Gives P a)
    (message : String) : Act.Gives P (reporting message a) := by
  intro l x hx
  rw [(reporting_run message a l).1] at hx
  exact ha l x hx

/-- A header that is accepted announces no more parameters than there is room for. -/
theorem gives_checkHeader (capacity : Nat) (t : Timeout) (header : Bytes) :
    Act.Gives (· ≤ capacity) (Link.checkHeader capacity t header : Op (Link σ) Nat) := by
  unfold Link.checkHeader
  split
  · refine .ite (.after fun _ => gives_fail _ _) (.ite (gives_fail _ _) (.ite (gives_fail _ _)
      (.ite (gives_fail _ _) ?_)))
    rename_i len check
    by_cases hroom : capacity < len.toNat - 2
    · rw [if_pos hroom]
      exact gives_fail _ _
    · rw [if_neg hroom]
      exact Act.gives_pure (Nat.not_lt.mp hroom)
  · exact gives_fail _ _

variable (h : Exact σ)
include h

/-- A read gives as many bytes as it was asked for, as an exact port does. -/
theorem gives_read (n : Nat) (t : Timeout) :
    Act.Gives (fun bs : Bytes => bs.length = n) (read n t : Op (Link σ) Bytes) :=
  (h n t false).zoom

theorem gives_readPiece (what : String) (n : Nat) (t : Timeout) :
    Act.Gives (fun bs : Bytes => bs.length = n) (readPiece what n t : Op (Link σ) Bytes) :=
  gives_reporting (gives_read h n t) _

/-- So many parameters are read as the header has announced. -/
theorem gives_readContent (n : Nat) (command : UInt8) (t : Timeout) :
    Act.Gives (fun params : Bytes => params.length = n)
      (Link.readContent n command t : Op (Link σ) Bytes) := by
  refine .after fun intro => .optionally (.optionally ?_)
  by_cases hn : n = 0
  · rw [if_pos hn, pure_bind]
    exact .after fun trailer => .optionally (.optionally (Act.gives_pure hn.symm))
  · rw [if_neg hn]
    refine (gives_readPiece h _ n t).bind fun params hlen => ?_
    exact .after fun trailer => .optionally (.optionally (Act.gives_pure hlen))

/-- The parameters of a reply fit the buffer, since the header is checked against it. -/
theorem gives_receiveWith (recovery : Op (Link σ) Unit) (capacity : Nat) (command : UInt8)
    (t : Timeout) :
    Act.Gives (fun params : Bytes => params.length ≤ capacity)
      (Link.receiveWith recovery capacity command t : Op (Link σ) Bytes) := by
  refine .optionally (.after fun r => ?_)
  split
  · refine (gives_checkHeader capacity t _).bind fun n hn => ?_
    exact (gives_readContent h n command t).mono fun params hlen => hlen ▸ hn
  · intro l params hparams
    exact absurd ((abandon_result recovery l).symm.trans hparams) (by simp)
  · exact gives_fail _ _

/-- However many recoveries are allowed, they fit it. -/
theorem gives_receiveWithin (n capacity : Nat) (command : UInt8) (t : Timeout) :
    Act.Gives (fun params : Bytes => params.length ≤ capacity)
      (Link.receiveWithin n capacity command t : Op (Link σ) Bytes) := by
  cases n with
  | zero => exact gives_receiveWith h _ capacity command t
  | succ n => exact gives_receiveWith h _ capacity command t

/-! ## The link passes -/

omit [SerialPort σ] h in
/-- The pieces of an answer of sixteen bytes are there, and a text is cut only if its length is
trusted. -/
theorem passes_firmwareText {reply : Bytes} (hlen : reply.length = 16) :
    Passes Eq (firmwareText reply : Checked (Link σ) String) (Link.firmwareText reply) := by
  unfold firmwareText Link.firmwareText
  rw [slice_eq (Nat.zero_le 6) (by omega), pure_bind, List.drop_zero]
  refine .ite (passes_pure "") ?_
  rw [slice_eq (by decide) (by omega), pure_bind]
  -- the digits are taken out of their slice, and out of the whole answer without checks
  have hdigit (i : Nat) (hi : i < 2) :
      ((reply.take 8).drop 6).getD i 0 = reply.getD (6 + i) 0 := by
    have htake : 6 + i < 8 := by omega
    simp [List.getD, htake]
  rw [hdigit 0 (by decide), hdigit 1 (by decide)]
  cases Hex.pairValue? (reply.getD 6 0) (reply.getD 7 0) with
  | none => exact passes_pure ""
  | some length =>
      dsimp only
      by_cases hlong : maxFirmware < length.toNat
      · rw [if_pos hlong, if_pos hlong]
        exact (passes_log _ _ _).bind fun _ => passes_pure ""
      · have hfit : 8 + length.toNat ≤ reply.length :=
          hlen ▸ Nat.add_le_add_left (Nat.not_lt.mp hlong) 8
        rw [if_neg hlong, if_neg hlong, slice_eq (Nat.le_add_right _ _) hfit, pure_bind,
          List.drop_take, Nat.add_sub_cancel_left]
        exact passes_pure _

/-- **Asking for the firmware stays in range**, as the answer is read in full or not at all. -/
theorem passes_firmware : Passes Eq (firmware : Checked (Link σ) String) Link.firmware := by
  refine (passes_refl _).attempt.bind fun r => ?_
  cases r with
  | error e => exact (passes_log _ _ _).bind fun _ => passes_pure ""
  | ok _ =>
      refine (passes_refl _).attempt.bind_gives (gives_read h 16 _).attempt fun r hr => ?_
      cases r with
      | error e => exact (passes_log _ _ _).bind fun _ => passes_pure ""
      | ok reply => exact passes_firmwareText (hr reply rfl)

omit h in
/-- Of six bytes each is there to be compared. -/
theorem passes_checkAck {reply : Bytes} (hlen : reply.length = Frame.ack.length) (t : Timeout) :
    Passes Eq (checkAck t reply : Checked (Link σ) Unit) (Link.checkAck t reply) := by
  unfold checkAck
  rw [hlen, slice_eq (Nat.zero_le _) (by decide), pure_bind, List.drop_zero]
  refine .ite (passes_pure ()) (.ite ?_ (passes_refl _))
  exact (passes_log _ _ _).bind fun _ => (passes_refl _).bind fun _ => passes_throw _

/-- Sending looks at nothing but an acknowledgement that was read in full. -/
theorem passes_send (data : Bytes) (t : Timeout) :
    Passes Eq (send data t : Checked (Link σ) Unit) (Link.send data t) := by
  refine .optionally (passes_refl _) (.optionally (passes_refl _) ?_)
  refine (passes_refl _).bind fun _ => (passes_refl _).bind fun frame => ?_
  refine (passes_refl _).bind fun _ => ?_
  refine (passes_refl _).bind_gives (gives_reporting (gives_read h _ t) _) fun reply hlen => ?_
  exact passes_checkAck hlen t

omit h in
/-- Of five bytes each is there to be looked at. -/
theorem passes_checkHeader {header : Bytes} (hlen : header.length = 5) (capacity : Nat)
    (t : Timeout) :
    Passes Eq (checkHeader capacity t header : Checked (Link σ) Nat)
      (Link.checkHeader capacity t header) := by
  obtain ⟨a, b, c, d, e, rfl⟩ : ∃ a b c d e, header = [a, b, c, d, e] := by
    match header, hlen with
    | [a, b, c, d, e], _ => exact ⟨a, b, c, d, e, rfl⟩
  unfold checkHeader
  rw [slice_eq (by decide) (by simp), pure_bind, index_eq rfl, pure_bind, index_eq rfl, pure_bind]
  exact passes_refl _

/-- Parameters that fit the buffer are put at its front, and what frames them is read in full. -/
theorem passes_readContent {capacity n : Nat} (hn : n ≤ capacity) (command : UInt8)
    (t : Timeout) :
    Passes Eq (readContent capacity n command t : Checked (Link σ) Bytes)
      (Link.readContent n command t) := by
  have hpiece (what : String) (n : Nat) :
      Passes Eq (lift (readPiece what n t : Op (Link σ) Bytes)) (readPiece what n t) :=
    passes_refl _
  refine (hpiece _ 2).bind_gives (gives_readPiece h _ 2 t) fun intro hlen => ?_
  obtain ⟨tfi, code, rfl⟩ := List.length_eq_two.mp hlen
  rw [index_eq rfl, pure_bind, index_eq rfl, pure_bind]
  refine .optionally (passes_refl _) (.optionally (passes_refl _) ?_)
  rw [front_eq hn, pure_bind]
  -- what follows the parameters is the same with and without any
  have htrailer (params : Bytes) : Passes Eq
      (do
        let trailer ← lift (readPiece "DCS" 2 t)
        let expected := Checksum.dcs (tfi :: code :: params)
        let check ← index trailer 0
        let post ← index trailer 1
        if check ≠ expected then lift (fail .io (Frame.Fault.dataChecksum expected check).message)
        if post ≠ Frame.postamble then lift (fail .io (Frame.Fault.postamble post).message)
        return params : Checked (Link σ) Bytes)
      (do
        let trailer ← readPiece "DCS" 2 t
        let expected := Checksum.dcs (tfi :: code :: params)
        let check := trailer.getD 0 0
        let post := trailer.getD 1 0
        if check ≠ expected then fail .io (Frame.Fault.dataChecksum expected check).message
        if post ≠ Frame.postamble then fail .io (Frame.Fault.postamble post).message
        return params) := by
    refine (hpiece _ 2).bind_gives (gives_readPiece h _ 2 t) fun trailer hlen => ?_
    obtain ⟨check, post, rfl⟩ := List.length_eq_two.mp hlen
    simp only
    rw [index_eq rfl, pure_bind, index_eq rfl, pure_bind]
    exact .optionally (passes_refl _) (.optionally (passes_refl _) (passes_pure params))
  refine .ite ?_ ?_
  · rw [pure_bind]
    exact htrailer []
  · exact (hpiece _ n).bind fun params => htrailer params

/-- **Receiving stays in range** if the recovery behind an abort does. -/
theorem passes_receiveWith {recovery : Checked (Link σ) Unit} {recovery' : Op (Link σ) Unit}
    (hrecovery : Passes Eq recovery recovery') (capacity : Nat) (command : UInt8) (t : Timeout) :
    Passes Eq (receiveWith recovery capacity command t)
      (Link.receiveWith recovery' capacity command t) := by
  refine .optionally (passes_refl _) ?_
  have hheader : Act.Gives (fun header : Bytes => header.length = 5)
      (watching (SerialPort.receive 5 t true) : Op (Link σ) Bytes) := (h 5 t true).zoom
  -- a header that came has five bytes, which is what the checks of it count on
  refine (passes_refl _).attempt.bind_gives hheader.attempt fun r hr => ?_
  cases r with
  | ok header =>
      refine (passes_checkHeader (hr header rfl) capacity t).bind_gives (gives_checkHeader _ _ _)
        fun n hn => ?_
      exact passes_readContent h hn command t
  | error e =>
      cases e with
      | operationAborted =>
          refine hrecovery.attempt.bind fun r => ?_
          cases r with
          | ok _ => exact passes_throw _
          | error e => exact (passes_log _ _ _).bind fun _ => passes_throw _
      | _ => exact passes_refl _

/-- By induction on the recoveries that are allowed inside each other. -/
theorem passes_receiveWithin (n capacity : Nat) (command : UInt8) (t : Timeout) :
    Passes Eq (receiveWithin n capacity command t : Checked (Link σ) Bytes)
      (Link.receiveWithin n capacity command t) := by
  induction n generalizing capacity command t with
  | zero => exact passes_receiveWith h (passes_pure ()) capacity command t
  | succ n ih =>
      refine passes_receiveWith h ?_ capacity command t
      refine (passes_refl _).bind fun frame => (passes_refl _).bind fun _ => ?_
      exact Pn53x.passes_echoChecked (passes_send h) ih (gives_receiveWithin h n)

/-- **No bytes from the port lead a serial link out of range.** -/
theorem sound_guards : (guards : Pn53x.Guards (Link σ)).Sound where
  send := passes_send h
  receive := passes_receiveWithin h maxRecoveries
  fits := gives_receiveWithin h maxRecoveries

end Guarding

end NearField.Arygon
