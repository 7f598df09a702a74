import NearField.Arygon.Link
import NearField.Proofs.Frame.Reply

/-!
# Where a serial link leads

A serial link is made of four calls of its port: it discards old input, sends a frame, reads
bytes that no signal interrupts, and waits for the first bytes of a reply, which the signal
does interrupt.  So whatever relation those calls keep between the link before and after them,
sending a command and receiving a reply keep as well (`leads_send`, `leads_receiveWithin`), with all
the recoveries that an aborted wait runs.

`Steps R E T` is that assumption on the calls that no signal interrupts, for reads within the
timeouts of `T`.
-/

namespace NearField.Arygon.Link

variable {σ α : Type}

/-- A failure that is reported is the one that came. -/
theorem reporting_run (message : String) (a : Op (Link σ) α) (l : Link σ) :
    (reporting message a l).result = (a l).result ∧
      (reporting message a l).state = (a l).state := by
  unfold reporting
  rw [(Act.attempt_bind _ _ _).1, (Act.attempt_bind _ _ _).2]
  cases (a l).result <;> exact ⟨rfl, rfl⟩

/-- Telling of a failure takes no step of the link. -/
theorem leads_reporting {R : Link σ → Link σ → Prop} {E : Error → Prop} {message : String}
    {a : Op (Link σ) α} (ha : Act.Leads R E a) : Act.Leads R E (reporting message a) := by
  intro l
  rw [(reporting_run message a l).1, (reporting_run message a l).2]
  exact ha l

/-- What a receiver does whose wait was aborted: it recovers, and reports the abort. -/
def abandon (recovery : Op (Link σ) Unit) : Op (Link σ) Bytes := do
  if let .error e ← recovery.attempt then
    Act.log .debug Log.arygonTopic ("Chip did not recover after abort: " ++ e.text)
  throw .operationAborted

/-- A receiver whose wait was aborted reports that, whatever became of its recovery. -/
theorem abandon_result (recovery : Op (Link σ) Unit) (l : Link σ) :
    (abandon recovery l).result = .error .operationAborted := by
  unfold abandon
  rw [(Act.attempt_bind _ _ _).1]
  cases (recovery l).result <;> rfl

/-- A receiver whose wait was aborted leads where its recovery leads. -/
theorem leads_abandon {R : Link σ → Link σ → Prop} [IsPreorder (Link σ) R] {E : Error → Prop}
    (habort : E .operationAborted) {recovery : Op (Link σ) Unit}
    (hrecovery : Act.Leads R E recovery) : Act.Leads R E (abandon recovery) := by
  refine hrecovery.attempt.bind fun r => ?_
  cases r with
  | ok _ => exact Act.leads_throw habort
  | error e => exact (Act.leads_log _ _ _).bind fun _ => Act.leads_throw habort

variable [SerialPort σ]

/-- The calls of the port that no signal interrupts lead along `R` and fail with errors of `E`,
and so does the link by itself, which takes nothing for an abort. -/
structure Steps (R : Link σ → Link σ → Prop) (E : Error → Prop) (T : Timeout → Prop) : Prop where
  flush : Act.Leads R E (onPort (SerialPort.flush false))
  send (bytes : Bytes) (t : Timeout) : Act.Leads R E (onPort (SerialPort.send bytes t))
  read (n : Nat) {t : Timeout} (ht : T t) : Act.Leads R E (read n t)
  own {e : Error} (he : e ≠ .operationAborted) : E e

variable {R : Link σ → Link σ → Prop} [IsPreorder (Link σ) R] {E : Error → Prop}
  {T : Timeout → Prop} {t : Timeout}

/-- A failure of the link itself is told, and is none of its port. -/
theorem Steps.fail (h : Steps R E T) {e : Error} {message : String} (he : e ≠ .operationAborted) :
    Act.Leads R E (fail e message : Op (Link σ) α) :=
  (Act.leads_log _ _ _).bind fun _ => Act.leads_throw (h.own he)

variable (h : Steps R E T)
include h

/-! ## The reader itself -/

/-- A reset is sent once, and its reply read without the signal. -/
theorem leads_reset (ht : T resetReplyTimeout) : Act.Leads R E (reset : Op (Link σ) Unit) := by
  refine (h.send _ _).ignoring.bind fun _ =>
    (h.read 10 ht).attempt_bind (fun reply => ?_) fun e he => ?_
  · exact .ite ((Act.leads_log _ _ _).bind fun _ => Act.leads_throw (h.own (by decide)))
      (Act.leads_pure _)
  · exact (Act.leads_log _ _ _).bind fun _ => Act.leads_throw he

omit [SerialPort σ] h in
/-- What a firmware reply says is read off its bytes. -/
theorem leads_firmwareText (reply : Bytes) :
    Act.Leads R E (firmwareText reply : Op (Link σ) String) := by
  refine .ite (Act.leads_pure _) ?_
  split
  · exact Act.leads_pure _
  · exact .ite ((Act.leads_log _ _ _).bind fun _ => Act.leads_pure _) (Act.leads_pure _)

/-- A reader that does not answer has no firmware text, and that is no failure. -/
theorem leads_firmware (ht : T .default) : Act.Leads R E (firmware : Op (Link σ) String) := by
  refine (h.send _ _).attempt.bind fun r => ?_
  cases r with
  | error e => exact (Act.leads_log _ _ _).bind fun _ => Act.leads_pure _
  | ok _ =>
      refine (h.read 16 ht).attempt.bind fun r => ?_
      cases r with
      | error e => exact (Act.leads_log _ _ _).bind fun _ => Act.leads_pure _
      | ok reply => exact leads_firmwareText reply

/-! ## Sending -/

/-- A refused command has four more bytes, which are read and thrown away. -/
theorem leads_checkAck (ht : T t) (reply : Bytes) : Act.Leads R E (checkAck t reply) := by
  refine .ite (Act.leads_pure _) (.ite ?_ (h.fail (by decide)))
  refine (Act.leads_log _ _ _).bind fun _ => ?_
  exact (h.read 4 ht).ignoring.bind fun _ => Act.leads_throw (h.own (by decide))

/-- Sending discards what was left to read, sends once and reads an acknowledgement. -/
theorem leads_send (ht : T t) (data : Bytes) : Act.Leads R E (send data t) := by
  refine .optionally (h.fail (by decide)) (.optionally (h.fail (by decide)) ?_)
  refine h.flush.bind fun _ => (Frame.leads_encodeOp h.own data).bind fun frame => ?_
  refine (leads_reporting (h.send _ _)).bind fun _ => ?_
  exact (leads_reporting (h.read _ ht)).bind fun reply => leads_checkAck h ht reply

/-! ## Receiving -/

/-- An error frame has three more bytes, which are read before the failure is told. -/
theorem leads_checkHeader (ht : T t) (capacity : Nat) (header : Bytes) :
    Act.Leads R E (checkHeader capacity t header) := by
  unfold checkHeader
  split
  · refine .ite ((h.read 3 ht).ignoring.bind fun _ => h.fail (by decide)) (.ite ?_ (.ite ?_
      (.ite ?_ (.ite ?_ (Act.leads_pure _)))))
    all_goals exact h.fail (by decide)
  · exact h.fail (by decide)

omit [IsPreorder (Link σ) R] in
/-- A piece of a reply is read without the signal. -/
theorem leads_readPiece (ht : T t) (what : String) (n : Nat) :
    Act.Leads R E (readPiece what n t) :=
  leads_reporting (h.read n ht)

/-- What a header announces is read piece by piece, and checked as it comes. -/
theorem leads_readContent (ht : T t) (n : Nat) (command : UInt8) :
    Act.Leads R E (readContent n command t) := by
  refine (leads_readPiece h ht _ _).bind fun intro => ?_
  refine .optionally (h.fail (by decide)) (.optionally (h.fail (by decide)) ?_)
  refine .ite ((Act.leads_pure []).bind fun params => ?_)
    ((leads_readPiece h ht _ _).bind fun params => ?_)
  all_goals
    refine (leads_readPiece h ht _ _).bind fun trailer => ?_
    refine .optionally (h.fail (by decide)) (.optionally (h.fail (by decide)) ?_)
    exact Act.leads_pure _

/-- What follows the first bytes of a reply. -/
theorem leads_afterHeader (ht : T t) (capacity : Nat) (command : UInt8) (header : Bytes) :
    Act.Leads R E (checkHeader capacity t header >>= fun n => readContent n command t) :=
  (leads_checkHeader h ht capacity header).bind fun n => leads_readContent h ht n command

/-- The signal is looked at while the first bytes are waited for, and not behind them. -/
theorem leads_receiveWith (ht : T t) (habort : E .operationAborted)
    (hwait : Act.Leads R E (watching (SerialPort.receive 5 t true)))
    {recovery : Op (Link σ) Unit} (hrecovery : Act.Leads R E recovery) (capacity : Nat)
    (command : UInt8) : Act.Leads R E (receiveWith recovery capacity command t) := by
  refine .optionally (h.fail (by decide)) ?_
  refine hwait.attempt.bind fun r => ?_
  split
  · exact leads_afterHeader h ht _ _ _
  · exact leads_abandon habort hrecovery
  · rename_i e hne
    exact h.fail fun he => hne (he ▸ rfl)

/-- The echo that a recovery asks for leads where sending and the way to receive lead. -/
theorem leads_recoverWith (hcheck : T Pn53x.checkTimeout)
    {receive : Nat → UInt8 → Timeout → Op (Link σ) Bytes}
    (hreceive : ∀ capacity command,
      Act.Leads R E (receive capacity command Pn53x.checkTimeout)) :
    Act.Leads R E (recoverWith receive) := by
  refine (Frame.leads_encodeOp h.own _).bind fun frame => (h.send _ _).ignoring.bind fun _ => ?_
  refine (leads_send h hcheck _).bind fun _ => (hreceive _ _).bind fun reply => ?_
  exact .ite ((Act.leads_log _ _ _).bind fun _ => Act.leads_throw (h.own (by decide)))
    (Act.leads_pure _)

/-- Receiving leads along `R` if waiting for the first bytes does, however many recoveries run
inside each other. -/
theorem leads_receiveWithin (hcheck : T Pn53x.checkTimeout) (habort : E .operationAborted)
    (hwait : ∀ {t}, T t → Act.Leads R E (watching (SerialPort.receive 5 t true))) (ht : T t)
    (n capacity : Nat) (command : UInt8) :
    Act.Leads R E (receiveWithin n capacity command t) := by
  induction n generalizing t capacity command with
  | zero => exact leads_receiveWith h ht habort (hwait ht) (Act.leads_pure _) _ _
  | succ n ih =>
      refine leads_receiveWith h ht habort (hwait ht) ?_ _ _
      exact leads_recoverWith h hcheck fun capacity command => ih hcheck capacity command

end NearField.Arygon.Link
