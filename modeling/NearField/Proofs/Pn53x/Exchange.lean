import NearField.Pn53x.Chip
import NearField.Proofs.Act

/-!
# What an exchange with a chip changes

An exchange of a command and a reply changes the link, the status that is kept for its text, and
the current target if the chip released it.  It changes no setting that the host keeps
(`keeps_command`), and it hands the command to the link once, whether or not the link takes it
and whatever is replied (`sent_command`).

For the second statement a link is watched: `Tapped τ` is a link that hands everything on to a
link with state `τ` and writes down the commands it is given.
-/

namespace NearField.Pn53x

/-- A link and the commands that it was given to send. -/
structure Tapped (τ : Type) where
  link : τ
  sent : List Bytes := []

namespace Tapped

variable {τ α : Type}

/-- Hands a call on. -/
def passing (a : Op τ α) : Op (Tapped τ) α := a.zoom Tapped.link fun l t => { t with link := l }

instance [ChipLink τ] : ChipLink (Tapped τ) where
  send cmd timeout := do
    modify fun t => { t with sent := t.sent ++ [cmd] }
    passing (ChipLink.send cmd timeout)
  receive capacity code timeout := passing (ChipLink.receive capacity code timeout)
  signal? t := ChipLink.signal? t.link
  raiseSignal t := { t with link := ChipLink.raiseSignal t.link }
  clock t := ChipLink.clock t.link
  abortCommand := passing ChipLink.abortCommand
  supportsPowerDown t := ChipLink.supportsPowerDown t.link
  close t := { t with link := ChipLink.close t.link }

end Tapped

/-- One exchange over a link: a command goes out and its reply comes back. -/
def carry {τ : Type} [ChipLink τ] (code : UInt8) (params : Bytes) (t : Timeout) : Op τ Bytes := do
  ChipLink.send (code :: params) t
  ChipLink.receive replyCapacity code t

/-- What a command ends in that is answered with `reply`.  Where a status byte is due it has to
be there and to report success. -/
def answer (code : UInt8) (reply : Bytes) : Except Error Bytes :=
  if hasStatusByte code then
    match reply with
    | [] => .error .io
    | status :: _ => if statusCode status = 0 then .ok reply else .error (statusError status)
  else .ok reply

namespace Chip

variable {τ α β : Type}

theorem onLink_bind (a : Op τ α) (f : α → Op τ β) :
    (onLink (a >>= f) : Op (Chip τ) β) = onLink a >>= fun x => onLink (f x) := by
  funext c
  simp only [onLink, Act.zoom_apply, Act.bind_apply]
  rcases a c.link with ⟨_ | x, l, log⟩ <;> rfl

/-- Notes a reply and checks its status byte, if one is due. -/
def accept (code : UInt8) (reply : Bytes) : Op (Chip τ) Bytes := do
  Act.log .trace Log.chipTopic ("RX: " ++ Hex.spaced reply)
  if hasStatusByte code then checkStatus reply
  return reply

/-- A command is carried over the link in one exchange, between what is noted of both. -/
theorem transceive_eq [ChipLink τ] (code : UInt8) (params : Bytes) (t : Timeout) :
    (transceive (code :: params) t : Op (Chip τ) Bytes) = (do
      modify fun c => { c with lastStatus := 0 }
      Act.log .trace Log.chipTopic ("TX: " ++ Hex.spaced (code :: params))
      let reply ← onLink (carry code params t)
      accept code reply) := by
  rw [carry, onLink_bind]
  simp only [bind_assoc]
  rfl

/-- Accepting a reply ends in what the command amounts to, and does not touch the link. -/
theorem accept_run (code : UInt8) (reply : Bytes) (c : Chip τ) :
    (accept code reply c).result = answer code reply ∧
      (accept code reply c).state.link = c.link := by
  rw [accept, (Act.log_bind _ _ _ _ _).1, (Act.log_bind _ _ _ _ _).2]
  unfold answer
  by_cases hstatus : hasStatusByte code = true
  · rw [if_pos hstatus, if_pos hstatus]
    cases reply with
    | nil => exact ⟨rfl, rfl⟩
    | cons status params =>
        by_cases hok : statusCode status = 0
        · simp [checkStatus, hok, Act.bind_apply]
        · by_cases hreleased : statusError status = .targetReleased <;>
            simp [checkStatus, hok, hreleased, Act.bind_apply]
  · rw [if_neg hstatus, if_neg hstatus]
    exact ⟨rfl, rfl⟩

/-- What an exchange ends in is decided by the reply that comes. -/
theorem transceive_of_carry [ChipLink τ] {code : UInt8} {params reply : Bytes} {t : Timeout}
    {c : Chip τ} {l : τ} (h : (carry code params t).Yields c.link reply l) :
    (transceive (code :: params) t c).result = answer code reply ∧
      (transceive (code :: params) t c).state.link = l := by
  have hcarry : (onLink (carry code params t)).Yields { c with lastStatus := 0 } reply
      { c with lastStatus := 0, link := l } :=
    Act.yields_zoom.mpr ⟨l, h, rfl⟩
  rw [transceive_eq, (Act.modify_bind _ _ _).1, (Act.modify_bind _ _ _).2,
    (Act.log_bind _ _ _ _ _).1, (Act.log_bind _ _ _ _ _).2, (hcarry.bind _).1, (hcarry.bind _).2]
  exact accept_run code reply _

/-- An exchange that the link fails ends there. -/
theorem transceive_of_fails [ChipLink τ] {code : UInt8} {params : Bytes} {t : Timeout}
    {c : Chip τ} {e : Error} {l : τ} (h : (carry code params t).Fails c.link e l) :
    (transceive (code :: params) t c).result = .error e ∧
      (transceive (code :: params) t c).state.link = l := by
  have hcarry : (onLink (carry code params t)).Fails { c with lastStatus := 0 } e
      { c with lastStatus := 0, link := l } :=
    Act.fails_zoom.mpr ⟨l, h, rfl⟩
  rw [transceive_eq, (Act.modify_bind _ _ _).1, (Act.modify_bind _ _ _).2,
    (Act.log_bind _ _ _ _ _).1, (Act.log_bind _ _ _ _ _).2]
  obtain ⟨hresult, hstate⟩ := hcarry.bind (accept code)
  exact ⟨hresult, congrArg Chip.link hstate⟩

/-- An exchange leaves the link as carrying the command over it does. -/
theorem link_transceive [ChipLink τ] (code : UInt8) (params : Bytes) (t : Timeout)
    (c : Chip τ) : (transceive (code :: params) t c).state.link =
      (carry code params t c.link).state := by
  rcases (carry code params t).yields_or_fails c.link with ⟨reply, h⟩ | ⟨e, h⟩
  · exact (transceive_of_carry h).2
  · exact (transceive_of_fails h).2

/-- The settings that the host keeps about a chip: all but what an exchange changes. -/
def settings (c : Chip τ) : Chip Unit :=
  { c with link := (), lastStatus := 0, current? := none }

theorem keeps_onLink (a : Op τ α) : Act.Keeps settings (onLink a) := fun _ => rfl

/-- A status is kept and may make the chip forget its target; nothing else changes. -/
theorem keeps_checkStatus {β : Type} {view : Chip τ → β}
    (hstatus : ∀ c status, view { c with lastStatus := status } = view c)
    (hcurrent : ∀ c : Chip τ, view { c with current? := none } = view c) (reply : Bytes) :
    Act.Keeps view (checkStatus reply) := by
  cases reply with
  | nil => exact Act.keeps_throw _
  | cons status params =>
      refine .ite ?_ (Act.keeps_pure _)
      refine .bind (Act.keeps_modify fun c => hstatus c status) fun _ => ?_
      refine .bind (Act.keeps_log _ _ _) fun _ => .ite ?_ (Act.keeps_throw _)
      exact .bind (Act.keeps_modify hcurrent) fun _ => Act.keeps_throw _

variable [ChipLink τ]

theorem keeps_transceive (cmd : Bytes) (t : Timeout) :
    Act.Keeps settings (transceive cmd t : Op (Chip τ) Bytes) := by
  cases cmd with
  | nil => exact Act.keeps_throw _
  | cons code params =>
      refine .bind (Act.keeps_modify fun _ => rfl) fun _ => .bind (Act.keeps_log _ _ _) fun _ => ?_
      refine .bind (keeps_onLink _) fun _ => .bind (keeps_onLink _) fun _ => ?_
      refine .bind (Act.keeps_log _ _ _) fun _ => .ite ?_ (Act.keeps_pure _)
      exact .bind (keeps_checkStatus (fun _ _ => rfl) (fun _ => rfl) _) fun _ => Act.keeps_pure _

/-- **No setting changes** with an exchange, however it ends. -/
theorem keeps_command (cmd : Bytes) : Act.Keeps settings (command cmd : Op (Chip τ) Unit) :=
  .bind (.bind Act.keeps_get fun _ => keeps_transceive _ _) fun _ => Act.keeps_pure _

/-! ## What crosses the link -/

/-- The commands that the link of a chip was given. -/
def sent (c : Chip (Tapped τ)) : List Bytes := c.link.sent

theorem sent_carry (code : UInt8) (params : Bytes) (t : Timeout) (l : Tapped τ) :
    (carry code params t l).state.sent = l.sent ++ [code :: params] := by
  have hreceive : Act.Keeps Tapped.sent
      (ChipLink.receive replyCapacity code t : Op (Tapped τ) Bytes) := fun _ => rfl
  exact Act.keeps_after (fun _ => hreceive) l

/-- **A command is sent once**, also if the link refuses it or the chip replies with a failure. -/
theorem sent_transceive (code : UInt8) (params : Bytes) (t : Timeout) (c : Chip (Tapped τ)) :
    (transceive (code :: params) t c).state.sent = c.sent ++ [code :: params] :=
  (congrArg Tapped.sent (link_transceive code params t c)).trans (sent_carry code params t c.link)

theorem sent_command (code : UInt8) (params : Bytes) (c : Chip (Tapped τ)) :
    (command (code :: params) c).state.sent = c.sent ++ [code :: params] := by
  refine (Act.keeps_after (fun _ => Act.keeps_pure _) c).trans ?_
  rw [exchange, (Act.get_bind _ _).2, sent_transceive]

end Chip

end NearField.Pn53x
