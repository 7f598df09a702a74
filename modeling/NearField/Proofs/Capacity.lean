import NearField.Proofs.Device.Call
import NearField.Proofs.Pcsc.Capacity
import NearField.Proofs.Pn53x.Exchange
import NearField.Pn53x.Reader
import NearField.Simulated.ChipScript

/-!
# Room for replies

A caller that exchanges bytes says how long the reply may be.  No reader gives it more than that.
What a reply that is longer fails with depends on the reader (`exchange_overflows_iff`): with a
buffer overflow on a chip, whatever link it is behind, but with an error of the wire on a plain
reader of a smart card service and with an error of the chip on a Feitian reader.
-/

namespace NearField

open Pn53x Pcsc Simulated

namespace Pn53x.Chip

variable {τ : Type}

/-- The command that carries bytes to the tag, as its code and its parameters. -/
def dataCommand (c : Chip τ) (tx : Bytes) : UInt8 × Bytes :=
  if c.easyFraming then (inDataExchange, 0x01 :: tx) else (inCommunicateThru, tx)

/-- The reply of a tag, behind a status byte that reports success. -/
def TagReplies [ChipLink τ] (c : Chip τ) (t : Timeout) (tx reply : Bytes) : Prop :=
  ∃ status l, statusCode status = 0 ∧
    (carry (c.dataCommand tx).1 (c.dataCommand tx).2 t).Yields c.link (status :: reply) l

/-- A reply fits, or there is an overflow. -/
theorem fit_run (capacity : Nat) (data : Bytes) (c : Chip τ) :
    (fit capacity data c).result =
      if capacity < data.length then .error .bufferOverflow else .ok data := by
  unfold fit
  by_cases hlong : capacity < data.length
  · rw [if_pos hlong, if_pos hlong]
    rfl
  · rw [if_neg hlong, if_neg hlong]
    rfl

theorem gives_fit (capacity : Nat) (data : Bytes) :
    Act.Gives (fun x => x.length ≤ capacity) (fit capacity data : Op (Chip τ) Bytes) := by
  intro c x hx
  rw [fit_run] at hx
  obtain ⟨hroom, hx⟩ := Act.ite_error_eq_ok.mp hx
  exact Except.ok.inj hx ▸ Nat.not_lt.mp hroom

variable [ChipLink τ]

/-- An exchange with a target gives no more than there is room for. -/
theorem gives_transceiveBytes (tx : Bytes) (capacity : Nat) (t : Timeout) :
    Act.Gives (fun x => x.length ≤ capacity)
      (transceiveBytes tx capacity t : Op (Chip τ) Bytes) :=
  .after fun _ => .after fun _ => gives_fit capacity _

/-- A tag that replies is heard in full, and its reply refused behind that. -/
theorem transceiveBytes_of_tagReplies {c : Chip τ} {t : Timeout} {tx reply : Bytes}
    (h : c.TagReplies t tx reply) (capacity : Nat) :
    (transceiveBytes tx capacity t c).result =
      if capacity < reply.length then .error .bufferOverflow else .ok reply := by
  obtain ⟨status, l, hok, hcarry⟩ := h
  have hexchange {code : UInt8} {params : Bytes} (hcode : hasStatusByte code = true)
      (hcarry : (carry code params t).Yields c.link (status :: reply) l) :
      ((transceive (code :: params) t >>= fun reply => fit capacity (reply.drop 1)) c).result =
        if capacity < reply.length then .error .bufferOverflow else .ok reply := by
    have hanswer : (transceive (code :: params) t c).result = .ok (status :: reply) := by
      rw [(transceive_of_carry hcarry).1, answer, if_pos hcode]
      exact if_pos hok
    have hyields : (transceive (code :: params) t).Yields c (status :: reply) _ := ⟨hanswer, rfl⟩
    exact (hyields.bind _).1.trans (fit_run _ _ _)
  rw [transceiveBytes, (Act.get_bind _ _).1]
  unfold dataCommand at hcarry
  cases heasy : c.easyFraming with
  | true =>
      rw [heasy] at hcarry
      exact hexchange rfl hcarry
  | false =>
      rw [heasy] at hcarry
      exact hexchange rfl hcarry

end Pn53x.Chip

namespace Simulated.Card

/-- A card in memory answers with the reply that is next in its script. -/
def Answers (c : Card) (_ reply : Bytes) : Prop := c.replies.head? = some reply

/-- What a command comes to is decided by the reply that is next. -/
theorem transmit_result (apdu : Bytes) (capacity : Nat) (c : Card) :
    (transmit apdu capacity c).result = match c.replies with
      | [] => .error .notTransacted
      | reply :: _ =>
        if reply.length ≤ capacity then .ok reply else .error .insufficientBuffer := by
  unfold transmit
  rw [(Act.modify_bind _ _ _).1, (Act.get_bind _ _).1]
  cases hreplies : c.replies with
  | nil => rfl
  | cons reply rest =>
      refine (Act.modify_bind _ _ _).1.trans ?_
      by_cases hroom : reply.length ≤ capacity
      · simp [-bind_pure_comp, Act.bind_apply, hroom]
      · simp [-bind_pure_comp, Act.bind_apply, hroom]

/-- A card in memory answers if there is room for it. -/
theorem transmit_of_answers {apdu reply : Bytes} {c : Card} (h : Answers c apdu reply)
    (capacity : Nat) : (transmit apdu capacity c).result =
      if reply.length ≤ capacity then .ok reply else .error .insufficientBuffer := by
  obtain ⟨rest, hreplies⟩ := List.head?_eq_some_iff.mp h
  rw [transmit_result, hreplies]

/-- A card in memory honours the room that it is given. -/
theorem honours : Honours Answers where
  within apdu capacity c reply h := by
    change (transmit apdu capacity c).result = .ok reply at h
    rw [transmit_result] at h
    cases hreplies : c.replies with
    | nil =>
        rw [hreplies] at h
        cases h
    | cons next rest =>
        rw [hreplies] at h
        by_cases hroom : next.length ≤ capacity
        · simp only [if_pos hroom] at h
          exact Except.ok.inj h ▸ hroom
        · simp only [if_neg hroom] at h
          cases h
  given h hroom := (transmit_of_answers h _).trans (if_pos hroom)
  refused h hlong := (transmit_of_answers h _).trans (if_neg (Nat.not_le.mpr hlong))

end Simulated.Card

/-- A device of any driver: it holds a chip, over some link, or a reader of a smart card service,
over some channel that honours its capacity. -/
inductive AnyDevice : Type 1 where
  | chip {τ : Type} [ChipLink τ] (d : Device (Chip τ))
  | reader {σ : Type} [CardChannel σ] (answers : σ → Bytes → Bytes → Prop)
      (honours : Honours answers) (d : Device (Connection σ))

namespace AnyDevice

/-- What an exchange of bytes comes to. -/
def exchange : AnyDevice → Bytes → Nat → Timeout → Except Error Bytes
  | chip d, tx, capacity, t => (Reader.transceiveBytes tx capacity t d).result
  | reader _ _ d, tx, capacity, t => (Reader.transceiveBytes tx capacity t d).result

/-- The tag replies so to these bytes. -/
def TagReplies : AnyDevice → Timeout → Bytes → Bytes → Prop
  | chip d, t, tx, reply => d.backend.TagReplies t tx reply
  | reader answers _ d, _, tx, reply => d.backend.Replies answers tx reply

/-- The device holds a chip. -/
def HoldsChip : AnyDevice → Prop
  | chip _ => True
  | reader _ _ _ => False

/-- How an exchange fails whose reply is of a length that the caller has no room for. -/
def overlong : AnyDevice → Nat → Error
  | chip _, _ => .bufferOverflow
  | reader _ _ d, length => Connection.overlong d.backend.feitian length

/-- Only a chip reports a buffer overflow. -/
theorem overlong_eq_bufferOverflow_iff (x : AnyDevice) (length : Nat) :
    x.overlong length = .bufferOverflow ↔ x.HoldsChip := by
  cases x with
  | chip d => exact iff_of_true rfl trivial
  | reader answers honours d =>
      refine iff_of_false (fun h => ?_) id
      rw [overlong, Connection.overlong] at h
      split at h
      · cases h
      · cases h

/-- **No exchange gives more than there is room for, and a longer reply is a buffer overflow exactly
on a chip.**  A reader of a smart card service reports an error of the wire, unless it is a Feitian
reader, which had room for the reply itself: then it reports an error of the chip. -/
theorem exchange_overflows_iff (x : AnyDevice) (tx : Bytes) (capacity : Nat) (t : Timeout) :
    (∀ bytes, x.exchange tx capacity t = .ok bytes → bytes.length ≤ capacity) ∧
      ∀ reply, x.TagReplies t tx reply → capacity < reply.length →
        (x.exchange tx capacity t = .error .bufferOverflow ↔ x.HoldsChip) ∧
          x.exchange tx capacity t = .error (x.overlong reply.length) := by
  have hwithin : ∀ bytes, x.exchange tx capacity t = .ok bytes → bytes.length ≤ capacity := by
    intro bytes h
    -- a chip and a reader keep to the room by means of their own
    cases x with
    | chip d =>
        exact Chip.gives_transceiveBytes tx capacity t _ bytes
          ((Device.dispatch_run _ d).1.symm.trans h)
    | reader answers honours d =>
        exact Connection.gives_transceiveBytes honours tx capacity t _ bytes
          ((Device.dispatch_run _ d).1.symm.trans h)
  refine ⟨hwithin, fun reply h hlong => ?_⟩
  have hfails : x.exchange tx capacity t = .error (x.overlong reply.length) := by
    cases x with
    | chip d =>
        refine (Device.dispatch_run _ d).1.trans ?_
        exact (Chip.transceiveBytes_of_tagReplies h capacity).trans (if_pos hlong)
    | reader answers honours d =>
        refine (Device.dispatch_run _ d).1.trans ?_
        exact (Connection.transceiveBytes_of_replies honours h capacity t).trans
          (Connection.delivered_of_lt hlong)
  rw [hfails, Except.error.injEq]
  exact ⟨x.overlong_eq_bufferOverflow_iff reply.length, rfl⟩

/-- A device that holds a chip over a link with one reply. -/
def answering (reply : Bytes) : AnyDevice :=
  chip (Device.plain { link := ({ replies := [.payload reply] } : ChipScript) })

/-- A device that holds a reader of this name with a card in memory that has one reply. -/
def cardOn (name : String) (reply : Bytes) : AnyDevice :=
  reader Card.Answers Card.honours
    (Device.plain (.new { present := true, replies := [reply] } name))

/-- The identifier of a card with its status word. -/
def identifier : Bytes := [1, 2, 3, 4, 0x90, 0x00]

/-- The question for that identifier. -/
def askIdentifier : Bytes := [0xFF, 0xCA, 0x00, 0x00, 0x00]

theorem cardOn_replies :
    (cardOn "ACS ACR122U" identifier).TagReplies .default askIdentifier identifier := by
  have hplain : Feitian.isFeitian "ACS ACR122U" = false := by decide +kernel
  exact .plain hplain rfl

/-- Four bytes of a tag do not fit into two, and six do not fit into four. -/
theorem exchange_overflows_readers :
    let chip := answering [0x00, 1, 2, 3, 4]
    let plain := cardOn "ACS ACR122U" identifier
    let feitian := cardOn "Feitian R502" identifier
    (chip.TagReplies .default [0x30, 0] [1, 2, 3, 4] ∧
        chip.exchange [0x30, 0] 2 .default = .error .bufferOverflow) ∧
      (plain.TagReplies .default askIdentifier identifier ∧
        plain.exchange askIdentifier 4 .default = .error .io) ∧
      feitian.TagReplies .default [0x30, 0] identifier ∧
        feitian.exchange [0x30, 0] 4 .default = .error .chip := by
  intro chip plain feitian
  have hchip : chip.TagReplies .default [0x30, 0] [1, 2, 3, 4] := ⟨0x00, _, rfl, rfl, rfl⟩
  have hfeitian : feitian.TagReplies .default [0x30, 0] identifier := by
    have hname : Feitian.isFeitian "Feitian R502" = true := by decide +kernel
    exact .recoded hname rfl rfl
  have hio : plain.overlong identifier.length = .io := by decide +kernel
  have herror : feitian.overlong identifier.length = .chip := by decide +kernel
  refine ⟨⟨hchip, ?_⟩, ⟨cardOn_replies, ?_⟩, hfeitian, ?_⟩
  · exact ((exchange_overflows_iff chip _ 2 .default).2 _ hchip (by decide)).1.mpr trivial
  · exact hio ▸ ((exchange_overflows_iff plain _ 4 .default).2 _ cardOn_replies (by decide)).2
  · exact herror ▸ ((exchange_overflows_iff feitian _ 4 .default).2 _ hfeitian (by decide)).2

/-- A card on a reader that is no Feitian reader answers six bytes to a caller with room for four.
That is reported as an error of the wire, and not as a buffer overflow. -/
theorem exchange_not_overflows :
    let x := cardOn "ACS ACR122U" identifier
    x.TagReplies .default askIdentifier identifier ∧ 4 < identifier.length ∧
      x.exchange askIdentifier 4 .default = .error .io ∧
      x.exchange askIdentifier 4 .default ≠ .error .bufferOverflow := by
  intro x
  have hio : x.exchange askIdentifier 4 .default = .error .io := rfl
  refine ⟨cardOn_replies, by decide, hio, ?_⟩
  rw [hio]
  exact nofun

end AnyDevice

end NearField
