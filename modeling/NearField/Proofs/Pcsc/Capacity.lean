import NearField.Pcsc.Connection
import NearField.Proofs.Pcsc.Recoding
import NearField.Simulated.Card

/-!
# Room for the replies of a card

A channel honours the capacity that it is told if it hands on every reply that fits, whole, and
refuses every other as the service does (`Honours`).  Over such a channel an exchange of bytes
never gives more than there is room for (`gives_transceiveBytes`).

A reply that is too long is refused in one of two places (`transceiveBytes_of_replies`).  A plain
reader leaves it to the channel, and reports what the channel refuses as an error of the wire.  A
Feitian reader has room of its own for what its channel hands on, and reports what the caller has
no room for as an error of the chip.
-/

namespace NearField.Pcsc

open Simulated

variable {σ α : Type}

/-- A channel honours the capacity that it is told, where the card answers a command with a reply
as `answers` says.  No reply is longer than that; one that fits is handed on, and one that does not
is refused with the code for a buffer that is too small. -/
structure Honours [CardChannel σ] (answers : σ → Bytes → Bytes → Prop) : Prop where
  within (apdu : Bytes) (capacity : Nat) :
    Act.Gives (fun reply => reply.length ≤ capacity)
      (CardChannel.transmit apdu capacity : Act Scard σ Bytes)
  given {s : σ} {apdu reply : Bytes} {capacity : Nat} (h : answers s apdu reply)
    (hroom : reply.length ≤ capacity) :
    (CardChannel.transmit apdu capacity s).result = .ok reply
  refused {s : σ} {apdu reply : Bytes} {capacity : Nat} (h : answers s apdu reply)
    (hlong : capacity < reply.length) :
    (CardChannel.transmit apdu capacity s).result = .error .insufficientBuffer

namespace Feitian

/-- The key is the only thing that goes ahead. -/
theorem recoded_eq_ok_some {tx load apdu : Bytes} (h : recoded tx = .ok (some load, apdu)) :
    load = keyCommand tx := by
  unfold recoded at h
  repeat' split at h
  all_goals cases h
  rfl

theorem keyCommand_ne_nil (tx : Bytes) : keyCommand tx ≠ [] := List.cons_ne_nil _ _

/-- A command that loads a key has six bytes of it at most. -/
theorem length_keyCommand_le (tx : Bytes) : (keyCommand tx).length ≤ 11 := by
  rw [keyCommand, List.length_append, List.length_drop, List.length_take, List.length_cons]
  simp only [List.length_cons, List.length_nil]
  omega

/-- What the caller has no room for never gets to it. -/
theorem gives_execute (exchange : Exchange σ) (apdu : Bytes) (capacity : Nat) :
    Act.Gives (fun reply => reply.length ≤ capacity) (execute exchange apdu capacity) := by
  refine .after fun _ => .after fun response => .after fun _ => ?_
  refine (Act.gives_require _ _).bind fun _ hroom => ?_
  exact Act.gives_pure (of_decide_eq_true hroom)

/-- Whatever a command becomes, the caller gets no more than there is room for. -/
theorem gives_route (exchange : Exchange σ) (tx : Bytes) (capacity : Nat) :
    Act.Gives (fun reply => reply.length ≤ capacity) (route exchange tx capacity) := by
  rw [route_eq]
  exact .after fun p => .after fun _ => gives_execute exchange p.2 capacity

end Feitian

namespace Connection

/-- What comes of a tag's reply behind a reader. -/
def delivered (feitian : Bool) (capacity : Nat) (reply : Bytes) : Except Error Bytes :=
  if tellCapacity feitian (if feitian then Feitian.responseCapacity else capacity) < reply.length
  then .error .io
  else if capacity < reply.length then .error .chip
  else .ok reply

/-- How an exchange fails whose reply is longer than the caller has room for. -/
def overlong (feitian : Bool) (length : Nat) : Error :=
  if feitian ∧ length ≤ tellCapacity true Feitian.responseCapacity then .chip else .io

/-- A reply that the caller has no room for fails, one way or the other. -/
theorem delivered_of_lt {feitian : Bool} {capacity : Nat} {reply : Bytes}
    (hlong : capacity < reply.length) :
    delivered feitian capacity reply = .error (overlong feitian reply.length) := by
  cases feitian with
  | true =>
      by_cases hfits : reply.length ≤ tellCapacity true Feitian.responseCapacity
      · simp [delivered, overlong, hfits, Nat.not_lt.mpr hfits, hlong]
      · simp [delivered, overlong, hfits, Nat.not_le.mp hfits]
  | false => simp [delivered, overlong, tellCapacity, hlong]

variable [CardChannel σ]

/-- A command is exchanged over the channel, and every failure there is one of the wire. -/
theorem transmit_run (apdu : Bytes) (capacity : Nat) (c : Connection σ) :
    let o := CardChannel.transmit apdu (tellCapacity c.feitian capacity) c.channel
    (transmit apdu capacity c).result = o.result.mapError (fun _ => .io) ∧
      (transmit apdu capacity c).state = { c with
        channel := o.state, lastCode := codeOf o.result } := by
  intro o
  cases ho : o.result with
  | error e =>
      constructor <;> simp [transmit, recorded, onChannel, Feitian.logBytes, debug, Act.bind_apply,
        codeOf, o, ho]
  | ok reply =>
      constructor <;> simp [-bind_pure_comp, transmit, recorded, onChannel, Feitian.logBytes,
        Act.bind_apply, codeOf, o, ho]

/-- A plain reader exchanges a command as it is, a Feitian reader as it is recoded. -/
theorem transceiveBytes_run (tx : Bytes) (capacity : Nat) (t : Timeout) (c : Connection σ) :
    (transceiveBytes tx capacity t c).result =
      if c.feitian then (Feitian.route transmit tx capacity c).result
      else (transmit tx capacity c).result := by
  rw [transceiveBytes, (Act.get_bind _ _).1]
  cases c.feitian with
  | true => rfl
  | false => rfl

/-- The reply of a tag to a command: that of the card to the command, or to what a Feitian reader
makes of it. -/
inductive Replies (answers : σ → Bytes → Bytes → Prop) (c : Connection σ) (tx reply : Bytes) :
    Prop where
  | plain (hplain : c.feitian = false) (h : answers c.channel tx reply)
  | recoded {apdu : Bytes} (hfeitian : c.feitian = true)
      (hrecoded : Feitian.recoded tx = .ok (none, apdu)) (h : answers c.channel apdu reply)
  | authenticated {load apdu loaded : Bytes} {s : σ} (hfeitian : c.feitian = true)
      (hrecoded : Feitian.recoded tx = .ok (some load, apdu))
      (hload : (CardChannel.transmit load
        (tellCapacity c.feitian Feitian.responseCapacity)).Yields c.channel loaded s)
      (h : answers s apdu reply)

variable {answers : σ → Bytes → Bytes → Prop} (honours : Honours answers)
include honours

/-- **No exchange gives more than there is room for.** -/
theorem gives_transceiveBytes (tx : Bytes) (capacity : Nat) (t : Timeout) :
    Act.Gives (fun reply => reply.length ≤ capacity)
      (transceiveBytes tx capacity t : Op (Connection σ) Bytes) := by
  intro c reply h
  rw [transceiveBytes_run] at h
  cases hfeitian : c.feitian with
  | true =>
      rw [hfeitian, if_pos rfl] at h
      exact Feitian.gives_route transmit tx capacity c reply h
  | false =>
      rw [hfeitian, if_neg Bool.false_ne_true, (transmit_run tx capacity c).1, hfeitian] at h
      exact honours.within tx capacity _ reply (Act.mapError_eq_ok.mp h)

/-- What comes of a reply that the card gives to a command of the reader. -/
theorem transmit_of_answers {apdu reply : Bytes} {c : Connection σ}
    (h : answers c.channel apdu reply) (capacity : Nat) :
    (transmit apdu capacity c).result =
      if tellCapacity c.feitian capacity < reply.length then .error .io else .ok reply := by
  rw [(transmit_run apdu capacity c).1]
  by_cases hlong : tellCapacity c.feitian capacity < reply.length
  · rw [if_pos hlong, honours.refused h hlong]
    rfl
  · rw [if_neg hlong, honours.given h (Nat.not_lt.mp hlong)]
    rfl

/-- A Feitian reader is given room of its own, and what the caller has no room for is refused behind
that. -/
theorem execute_of_answers {apdu reply : Bytes} {c : Connection σ}
    (hfeitian : c.feitian = true) (h : answers c.channel apdu reply) (capacity : Nat) :
    (Feitian.execute transmit apdu capacity c).result = delivered true capacity reply := by
  have hrun := transmit_of_answers honours h Feitian.responseCapacity
  rw [hfeitian] at hrun
  refine (Act.log_bind _ _ _ _ _).1.trans ?_
  rw [delivered, if_pos rfl]
  by_cases hlong : tellCapacity true Feitian.responseCapacity < reply.length
  · rw [if_pos hlong] at hrun ⊢
    have hfails : (transmit apdu Feitian.responseCapacity).Fails c .io _ := ⟨hrun, rfl⟩
    exact (hfails.bind _).1
  · rw [if_neg hlong] at hrun ⊢
    have hyields : (transmit apdu Feitian.responseCapacity).Yields c reply _ := ⟨hrun, rfl⟩
    refine (hyields.bind _).1.trans ((Act.log_bind _ _ _ _ _).1.trans ?_)
    rw [Feitian.require_bind]
    by_cases hroom : reply.length ≤ capacity
    · rw [if_pos hroom, if_neg (Nat.not_lt.mpr hroom)]
      rfl
    · rw [if_neg hroom, if_pos (Nat.not_le.mp hroom)]
      rfl

/-- Loading a key succeeds if the reader takes it; nothing about the wipes can fail. -/
theorem goAhead_yields {tx loaded : Bytes} {s : σ} {c : Connection σ} (hfeitian : c.feitian = true)
    (h : (CardChannel.transmit (Feitian.keyCommand tx)
      (tellCapacity c.feitian Feitian.responseCapacity)).Yields c.channel loaded s) :
    (Feitian.goAhead transmit (some (Feitian.keyCommand tx))).Yields c ()
      { c with channel := s, lastCode := .success } := by
  have hwipe (bytes : Bytes) (hne : bytes ≠ []) (hlen : bytes.length ≤ 260) :
      (BoundedCopy.wipeOp bytes : Op (Connection σ) Unit) = pure () :=
    BoundedCopy.wipeOp_of_wipe (BoundedCopy.wipe_of_ne_nil hne
      (Nat.le_trans hlen (by decide)))
  obtain ⟨hresult, hstate⟩ := transmit_run (Feitian.keyCommand tx) Feitian.responseCapacity c
  rw [h.1] at hresult hstate
  rw [h.2] at hstate
  refine Act.yields_bind.mpr ⟨.ok loaded, _, Act.yields_attempt.mpr ⟨hresult, hstate⟩, ?_⟩
  have hkey := Nat.le_trans (Feitian.length_keyCommand_le tx) (by decide : 11 ≤ 260)
  rw [hwipe _ (Feitian.keyCommand_ne_nil tx) hkey, pure_bind]
  cases loaded with
  | nil => exact Act.yields_pure.mpr ⟨rfl, rfl⟩
  | cons first rest =>
      have hlen := honours.within _ _ _ _ h.1
      rw [hfeitian] at hlen
      change (BoundedCopy.wipeOp (first :: rest)).Yields _ _ _
      rw [hwipe _ (List.cons_ne_nil first rest) hlen]
      exact Act.yields_pure.mpr ⟨rfl, rfl⟩

/-- **A reply that is too long is refused** by the channel, or by the recoding behind it. -/
theorem transceiveBytes_of_replies {tx reply : Bytes} {c : Connection σ}
    (h : Replies answers c tx reply) (capacity : Nat) (t : Timeout) :
    (transceiveBytes tx capacity t c).result = delivered c.feitian capacity reply := by
  rw [transceiveBytes_run]
  cases h with
  | plain hplain h =>
      rw [hplain, if_neg Bool.false_ne_true, transmit_of_answers honours h, hplain, delivered,
        if_neg Bool.false_ne_true]
      by_cases hlong : tellCapacity false capacity < reply.length
      · rw [if_pos hlong, if_pos hlong]
      · have hroom : ¬ capacity < reply.length := hlong
        rw [if_neg hlong, if_neg hlong, if_neg hroom]
  | recoded hfeitian hrecoded h =>
      rw [hfeitian, if_pos rfl, Feitian.route_eq, hrecoded]
      exact execute_of_answers honours hfeitian h capacity
  | @authenticated load apdu loaded s hfeitian hrecoded hload h =>
      obtain rfl := Feitian.recoded_eq_ok_some hrecoded
      rw [hfeitian, if_pos rfl, Feitian.route_eq, hrecoded]
      refine ((goAhead_yields honours hfeitian hload).bind _).1.trans ?_
      exact execute_of_answers honours (c := { c with channel := s, lastCode := .success })
        hfeitian h capacity

end Connection

end NearField.Pcsc
