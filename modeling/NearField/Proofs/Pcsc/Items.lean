import Mathlib.Data.List.Basic
import NearField.Proofs.BoundedCopy
import NearField.Proofs.Pcsc.Capacity

/-!
# Items of a card

A reader is asked for an item and replies with its bytes and a status word behind them.  What
becomes of the reply is settled by its length and by the sizes of the item (`verdict`): the four
items share one way to take them out of a reply (`getData_of_replied`), and differ in the sizes and
in what they make of the bytes (`items_of_replied`).

`Guarding.getData` is that way once more, with the count, the slice and the copy checked.  It ends
as `getData` does over any channel (`Guarding.passes_getData`), so no reply is taken apart out of
range.
-/

namespace NearField.Pcsc.Connection

open Checked Simulated

variable {σ α : Type}

/-- What becomes of a reply: it is no answer if it is shorter than `least`, and what stands in
front of its status word is refused if it is longer than `most`, and read otherwise. -/
def verdict (least most : Nat) (reply : Bytes) (read : Bytes → Except Error α) : Except Error α :=
  let data := reply.take (reply.length - 2)
  if reply.length < least then .error .deviceNotSupported
  else if most < data.length then .error .soft
  else read data

/-- What is made of the bytes can fail as well. -/
theorem verdict_bind {β : Type} (least most : Nat) (reply : Bytes) (read : Bytes → Except Error α)
    (f : α → Except Error β) : (verdict least most reply read).bind f =
      verdict least most reply fun data => (read data).bind f := by
  simp only [verdict, apply_ite (fun r : Except Error α => r.bind f)]
  rfl

/-- Only bytes that are not too many are read. -/
theorem verdict_congr {least most : Nat} {reply : Bytes} {read read' : Bytes → Except Error α}
    (h : ∀ data, data.length ≤ most → read data = read' data) :
    verdict least most reply read = verdict least most reply read' := by
  unfold verdict
  refine ite_congr rfl (fun _ => rfl) fun _ => ite_congr rfl (fun _ => rfl) fun hroom => ?_
  exact h _ (Nat.not_lt.mp hroom)

/-- The one byte of a select acknowledge. -/
def sakOf : Bytes → Except Error UInt8
  | [sak] => .ok sak
  | _ => .error .deviceNotSupported

/-- The two bytes of an answer to request. -/
def atqaOf : Bytes → Except Error (Vector UInt8 2)
  | [first, second] => .ok #v[first, second]
  | _ => .error .deviceNotSupported

theorem atqaOf_eq (data : Bytes) :
    atqaOf data = (vector? 2 data).elim (.error .deviceNotSupported) .ok := by
  unfold atqaOf
  split
  · rfl
  · rename_i hne
    have hlen : data.length ≠ 2 := fun h => by
      obtain ⟨first, second, hdata⟩ := List.length_eq_two.mp h
      exact hne first second hdata
    rw [vector?, dif_neg hlen]
    rfl

variable [CardChannel σ]

/-! ## Checked ways to ask -/

namespace Guarding

/-- `Connection.getData` with its accesses checked. -/
def getData (item : DataItem) : Checked (Connection σ) Bytes := do
  let reply ← lift (transmit [0xFF, 0xCA, item.parameter, 0x00, 0x00] dataCapacity)
  if reply.length < item.minReply then
    Act.log .debug Log.pcscTopic ("Reader doesn't support request for " ++ item.label)
    throw (.error .deviceNotSupported)
  let stop ← minus reply.length 2
  let data ← slice reply item.skip stop
  if item.capacity < data.length + item.skip then
    Act.log .debug Log.pcscTopic item.tooLong
    throw (.error .soft)
  BoundedCopy.copyChecked (List.replicate data.length 0) data data.length

/-- `Connection.getUid` with its accesses checked. -/
def getUid : Checked (Connection σ) Bytes := getData .uid

/-- `Connection.getAts` with its accesses checked. -/
def getAts : Checked (Connection σ) Bytes := getData .ats

/-- `Connection.getSak` with its accesses checked. -/
def getSak : Checked (Connection σ) UInt8 := do
  match ← getData .sak with
  | sak :: _ => return sak
  | [] => throw (.error .deviceNotSupported)

/-- `Connection.getAtqa` with its accesses checked. -/
def getAtqa : Checked (Connection σ) (Vector UInt8 2) := do
  lift (Act.ofOption .deviceNotSupported (vector? 2 (← getData .atqa)))

/-- **No reply to a question for an item is taken apart out of range**, and checking it makes no
difference. -/
theorem passes_getData (item : DataItem) :
    Passes Eq (getData item : Checked (Connection σ) Bytes) (Connection.getData item) := by
  refine (passes_refl _).bind fun reply => ?_
  by_cases hshort : reply.length < item.minReply
  · rw [if_pos hshort, if_pos hshort]
    exact (passes_log _ _ _).bind fun _ => passes_throw_bind _ _ _
  · have hlong : 2 + item.skip ≤ reply.length := Nat.not_lt.mp hshort
    rw [if_neg hshort, if_neg hshort]
    dsimp only
    rw [minus_eq (by omega), pure_bind, slice_eq (by omega) (Nat.sub_le _ _), pure_bind]
    exact .ite ((passes_log _ _ _).bind fun _ => passes_throw_bind _ _ _)
      (BoundedCopy.passes_copyChecked _ _ _)

theorem passes_getSak :
    Passes Eq (getSak : Checked (Connection σ) UInt8) Connection.getSak := by
  refine (passes_getData .sak).bind fun data => ?_
  cases data with
  | nil => exact passes_throw _
  | cons sak rest => exact passes_pure sak

theorem passes_getAtqa :
    Passes Eq (getAtqa : Checked (Connection σ) (Vector UInt8 2)) Connection.getAtqa :=
  (passes_getData .atqa).bind fun _ => passes_ofOption _ _

end Guarding

/-! ## Replies -/

/-- The reader gives a reply to the question for an item. -/
def Replied (c : Connection σ) (item : DataItem) (reply : Bytes) : Prop :=
  (CardChannel.transmit [0xFF, 0xCA, item.parameter, 0x00, 0x00]
    (tellCapacity c.feitian dataCapacity) c.channel).result = .ok reply

variable {c : Connection σ} {reply : Bytes}

/-- An item is what stands in front of the status word, without the bytes that are not part of
it. -/
theorem getData_of_replied {item : DataItem} (h : Replied c item reply) :
    (getData item c).result =
      verdict item.minReply item.capacity reply fun data => .ok (data.drop item.skip) := by
  have hsent : (transmit [0xFF, 0xCA, item.parameter, 0x00, 0x00] dataCapacity).Yields c reply
      (transmit [0xFF, 0xCA, item.parameter, 0x00, 0x00] dataCapacity c).state :=
    ⟨(transmit_run _ _ c).1.trans (congrArg _ h), rfl⟩
  refine (hsent.bind _).1.trans ?_
  rw [verdict]
  by_cases hshort : reply.length < item.minReply
  · rw [if_pos hshort, if_pos hshort]
    rfl
  rw [if_neg hshort, if_neg hshort]
  dsimp only
  have hlong : 2 + item.skip ≤ reply.length := Nat.not_lt.mp hshort
  have hlen : ((reply.take (reply.length - 2)).drop item.skip).length + item.skip =
      (reply.take (reply.length - 2)).length := by
    rw [List.length_drop, List.length_take]
    omega
  rw [hlen]
  by_cases hbig : item.capacity < (reply.take (reply.length - 2)).length
  · rw [if_pos hbig, if_pos hbig]
    rfl
  · -- no item has more room than a buffer may have, so the copy is not refused
    have hmax : ((reply.take (reply.length - 2)).drop item.skip).length ≤ BoundedCopy.maxSize := by
      have hcapacity : item.capacity ≤ BoundedCopy.maxSize := by cases item <;> decide
      omega
    rw [if_neg hbig, if_neg hbig, BoundedCopy.copyOp_of_copy
      (BoundedCopy.copy_whole List.length_replicate hmax)]
    rfl

theorem getSak_of_replied (h : Replied c .sak reply) :
    (getSak c).result = verdict 2 1 reply sakOf := by
  have hread (data : Bytes) (s : Connection σ) :
      ((match data with
        | sak :: _ => return sak
        | [] => throw .deviceNotSupported : Op (Connection σ) UInt8) s).result =
        data.head?.elim (.error .deviceNotSupported) .ok := by
    cases data <;> rfl
  refine (Act.bind_result hread c).trans ?_
  rw [getData_of_replied h, verdict_bind]
  refine verdict_congr fun data hroom => ?_
  match data, hroom with
  | [], _ => rfl
  | [sak], _ => rfl

theorem getAtqa_of_replied (h : Replied c .atqa reply) :
    (getAtqa c).result = verdict 2 2 reply atqaOf := by
  have hread (data : Bytes) (s : Connection σ) :
      (Act.ofOption Error.deviceNotSupported (vector? 2 data) s).result = atqaOf data := by
    rw [atqaOf_eq]
    cases vector? 2 data <;> rfl
  refine (Act.bind_result hread c).trans ?_
  rw [getData_of_replied h, verdict_bind]
  rfl

/-- **Every reply to a question for an item is settled by its length**, behind any reader: each item
has its shortest reply and its largest size, and nothing but these two, and too few bytes for what
is made of them, can go wrong.  No access on a reply is out of range. -/
theorem items_of_replied (c : Connection σ) (reply : Bytes) :
    ((Replied c .uid reply → (getUid c).result = verdict 2 10 reply .ok) ∧
      (Replied c .ats reply →
        (getAts c).result = verdict 3 254 reply fun data => .ok (data.drop 1)) ∧
      (Replied c .sak reply → (getSak c).result = verdict 2 1 reply sakOf) ∧
      (Replied c .atqa reply → (getAtqa c).result = verdict 2 2 reply atqaOf)) ∧
      (Guarding.getUid c).result = (getUid c).result.mapError .error ∧
      (Guarding.getAts c).result = (getAts c).result.mapError .error ∧
      (Guarding.getSak c).result = (getSak c).result.mapError .error ∧
      (Guarding.getAtqa c).result = (getAtqa c).result.mapError .error := by
  refine ⟨⟨fun h => ?_, fun h => ?_, fun h => ?_, fun h => ?_⟩, ?_, ?_, ?_, ?_⟩
  · exact getData_of_replied h
  · exact getData_of_replied h
  · exact getSak_of_replied h
  · exact getAtqa_of_replied h
  · exact (Guarding.passes_getData .uid c c rfl).1
  · exact (Guarding.passes_getData .ats c c rfl).1
  · exact (Guarding.passes_getSak c c rfl).1
  · exact (Guarding.passes_getAtqa c c rfl).1

/-- An identifier, an answer to select without bytes, a missing select acknowledge, and an answer
to request that is too long. -/
theorem items_of_replied_card :
    let c (reply : Bytes) := Connection.new ({ replies := [reply] } : Card) "ACS ACR122U"
    (getUid (c [0x04, 0x9C, 0xD1, 0x1A, 0x90, 0x00])).result = .ok [0x04, 0x9C, 0xD1, 0x1A] ∧
      (getAts (c [0x01, 0x90, 0x00])).result = .ok [] ∧
      (getSak (c [0x90, 0x00])).result = .error .deviceNotSupported ∧
      (getAtqa (c [0x00, 0x44, 0x00, 0x90, 0x00])).result = .error .soft := by
  intro c
  refine ⟨?_, ?_, ?_, ?_⟩
  · exact (items_of_replied (c [0x04, 0x9C, 0xD1, 0x1A, 0x90, 0x00]) _).1.1 rfl
  · exact (items_of_replied (c [0x01, 0x90, 0x00]) _).1.2.1 rfl
  · exact (items_of_replied (c [0x90, 0x00]) _).1.2.2.1 rfl
  · exact (items_of_replied (c [0x00, 0x44, 0x00, 0x90, 0x00]) _).1.2.2.2 rfl

end NearField.Pcsc.Connection
