import NearField.Proofs.BoundedCopy.InPlace
import NearField.Proofs.Pcsc.Capacity
import NearField.Simulated.ApduScript
import NearField.Simulated.Card

/-!
# Copies that are never refused

Where a copy or a wipe is refused, the operation that makes it fails with an error of the chip, as
if a chip had reported one.  Two operations on card readers make them: an item is copied out of a
reply, and an authentication copies the key that it loads and wipes it, together with the reply to
it.  What the sizes are is up to the reader that replies and to the caller.

`Demanding` has these operations once more, with copies and wipes that have to be made: where one is
refused, they stop out of range.  They never stop so, and end as the operations do
(`passes_getData`, `unrefused_authenticate`), so no caller gets to see a refused copy.  An empty
reply would be refused by a wipe and is left out; no reply is larger than a buffer can be, which is
the largest size that a wipe admits.
-/

namespace NearField

open Checked

variable {σ τ α : Type}

namespace BoundedCopy

variable {R : σ → τ → Prop} {target source buffer bytes : Bytes} {count : Nat}

/-- A copy that has to be made. -/
def requireCopy (target source : Bytes) (count : Nat) : Checked σ Bytes :=
  Act.ofExcept ((copy target source count).mapError fun _ => .outOfRange)

/-- A wipe that has to be made. -/
def requireWipe (buffer : Bytes) : Checked σ Unit :=
  Act.ofExcept (((wipe buffer).map fun _ => ()).mapError fun _ => .outOfRange)

theorem requireCopy_of_copy (h : copy target source count = .ok bytes) :
    (requireCopy target source count : Checked σ Bytes) = pure bytes := by
  rw [requireCopy, h]
  rfl

theorem passes_requireCopy (h : copy target source count = .ok bytes) :
    Passes R (requireCopy target source count) (copyOp target source count) := by
  rw [requireCopy_of_copy h, copyOp_of_copy h]
  exact passes_pure bytes

/-- A buffer that holds something is wiped, if it is no larger than a buffer can be. -/
theorem passes_requireWipe (hne : buffer ≠ []) (hmax : buffer.length ≤ maxSize) :
    Passes R (requireWipe buffer) (wipeOp buffer) := by
  have hwipe := wipe_of_ne_nil hne hmax
  rw [requireWipe, hwipe, wipeOp_of_wipe hwipe]
  exact passes_pure ()

end BoundedCopy

open BoundedCopy

namespace Pcsc

open Simulated (ApduScript Card)

/-- A program that stops out of range where a copy or a wipe is refused does not stop so, and ends
as the program that goes on with an error of the chip there. -/
def Unrefused (a : Checked σ α) (b : Op σ α) (s : σ) : Prop :=
  (a s).result ≠ .error .outOfRange ∧ (a s).result = (b s).result.mapError .error ∧
    (a s).state = (b s).state

theorem unrefused_of_passes {a : Checked σ α} {b : Op σ α}
    (h : Passes Eq a b) (s : σ) : Unrefused a b s :=
  ⟨h.inRange rfl, (h s s rfl).1, (h s s rfl).2⟩

/-- Behind an attempt a program goes on with what came of it. -/
theorem unrefused_attempt_bind {β : Type} {a : Op σ β} {f : Except Error β → Checked σ α}
    {g : Except Error β → Op σ α} {s : σ}
    (h : Unrefused (f (a s).result) (g (a s).result) (a s).state) :
    Unrefused (a.attempt >>= f) (a.attempt >>= g) s :=
  h

/-! ## Items -/

namespace Connection

variable [CardChannel σ]

/-- `Connection.getData` with a copy that has to be made. -/
def Demanding.getData (item : DataItem) : Checked (Connection σ) Bytes := do
  let reply ← lift (transmit [0xFF, 0xCA, item.parameter, 0x00, 0x00] dataCapacity)
  if reply.length < item.minReply then
    Act.log .debug Log.pcscTopic ("Reader doesn't support request for " ++ item.label)
    throw (.error .deviceNotSupported)
  let data := (reply.take (reply.length - 2)).drop item.skip
  if item.capacity < data.length + item.skip then
    Act.log .debug Log.pcscTopic item.tooLong
    throw (.error .soft)
  requireCopy (List.replicate data.length 0) data data.length

/-- **No copy of an item is refused**, whatever the reader replies: an item is no longer than its
capacity when it is copied. -/
theorem Demanding.passes_getData (item : DataItem) :
    Passes Eq (getData item : Checked (Connection σ) Bytes) (Connection.getData item) := by
  refine (passes_refl _).bind fun reply => ?_
  by_cases hshort : reply.length < item.minReply
  · rw [if_pos hshort, if_pos hshort]
    exact (passes_log _ _ _).bind fun _ => passes_throw_bind _ _ _
  · rw [if_neg hshort, if_neg hshort]
    dsimp only
    by_cases hbig : item.capacity <
        ((reply.take (reply.length - 2)).drop item.skip).length + item.skip
    · rw [if_pos hbig, if_pos hbig]
      exact (passes_log _ _ _).bind fun _ => passes_throw_bind _ _ _
    · have hmax : ((reply.take (reply.length - 2)).drop item.skip).length ≤ maxSize := by
        have hcapacity : item.capacity ≤ maxSize := by cases item <;> decide
        omega
      rw [if_neg hbig, if_neg hbig]
      exact passes_requireCopy (copy_whole List.length_replicate hmax)

end Connection

/-! ## Keys -/

namespace Feitian

/-- `Feitian.loadKey` with a copy that has to be made. -/
def Demanding.loadKey (tx : Bytes) : Checked σ Bytes := do
  let key ← requireCopy (List.replicate 6 0) ((tx.take 8).drop 2) 6
  return [0xFF, 0x82, 0x00, 0x01, 0x06] ++ key

/-- `Feitian.authenticate` with a copy and wipes that have to be made. -/
def Demanding.authenticate (exchange : Exchange σ) (command : UInt8) (tx : Bytes)
    (capacity : Nat) : Checked σ Bytes := do
  lift (Act.require (8 ≤ tx.length) .invalidArgument)
  let load ← loadKey tx
  let loaded ← (exchange load responseCapacity).attempt
  requireWipe load
  let reply ← Act.ofExcept (loaded.mapError .error)
  if !reply.isEmpty then requireWipe reply
  lift (execute exchange [0xFF, 0x86, 0x00, 0x00, 0x05, 0x01, 0x00, tx.getD 1 0, command, 0x01]
    capacity)

variable {exchange : Exchange σ} {tx : Bytes} {w : σ}

theorem Demanding.loadKey_eq (h : 8 ≤ tx.length) :
    (loadKey tx : Checked σ Bytes) = pure (keyCommand tx) := by
  rw [loadKey, requireCopy_of_copy (copy_key h), pure_bind]
  rfl

/-- **No copy and no wipe of an authentication is refused**, whatever is handed in and whatever the
reader replies to the key. -/
theorem Demanding.unrefused_authenticate (command : UInt8) (capacity : Nat)
    (hbuffer : ∀ reply, (exchange (keyCommand tx) responseCapacity w).result = .ok reply →
      reply.length ≤ maxSize) :
    Unrefused (authenticate exchange command tx capacity)
      (Feitian.authenticate exchange command tx capacity) w := by
  rw [authenticate, Feitian.authenticate]
  by_cases hlen : 8 ≤ tx.length
  · have hkey : (keyCommand tx).length ≤ maxSize :=
      Nat.le_trans (length_keyCommand_le tx) (by decide)
    have hlong : (Act.require (8 ≤ tx.length) .invalidArgument : Op σ Unit) = pure () := by
      rw [decide_eq_true hlen]
      rfl
    have hlifted : (lift (pure ()) : Checked σ Unit) = pure () := rfl
    rw [hlong, hlifted, pure_bind, pure_bind, loadKey_eq hlen, Feitian.loadKey_eq hlen, pure_bind,
      pure_bind]
    -- nothing has happened before the key is loaded, so what came of that is known
    refine unrefused_attempt_bind (unrefused_of_passes ?_ _)
    refine (passes_requireWipe (keyCommand_ne_nil tx) hkey).bind fun _ => ?_
    refine (passes_ofExcept _).bind_gives (Act.gives_ofExcept hbuffer) fun reply hreply => ?_
    cases reply with
    | nil => exact passes_refl _
    | cons first rest =>
      exact (passes_requireWipe (List.cons_ne_nil first rest) hreply).bind fun _ => passes_refl _
  · rw [decide_eq_false hlen]
    refine ⟨?_, rfl, rfl⟩
    intro h
    cases h

end Feitian

/-- **A bounded copy takes place whole or not at all, and none that is made of an item or a key is
refused**, and neither is a wipe.  Over any channel an item is taken out of any reply as if no copy
could be refused, and over any way to exchange the reader's commands so is a block authenticated,
for anything that is handed in, as long as the reply to the key is no larger than a buffer can
be. -/
theorem copies_whole_and_unrefused [CardChannel σ] (item : DataItem) (c : Connection σ)
    (exchange : Feitian.Exchange τ) (command : UInt8) (tx : Bytes) (capacity : Nat) (w : τ) :
    (∀ source count target, AllOrNothing source count target) ∧
      Unrefused (Connection.Demanding.getData item) (Connection.getData item) c ∧
      ((∀ reply, (exchange (Feitian.keyCommand tx) Feitian.responseCapacity w).result = .ok reply →
          reply.length ≤ maxSize) →
        Unrefused (Feitian.Demanding.authenticate exchange command tx capacity)
          (Feitian.authenticate exchange command tx capacity) w) :=
  ⟨allOrNothing, unrefused_of_passes (Connection.Demanding.passes_getData item) c,
    Feitian.Demanding.unrefused_authenticate command capacity⟩

/-- The reader has no bytes to say to the key, which a wipe would not take, and the identifier is as
long as there is room. -/
theorem copies_whole_and_unrefused_empty_reply :
    let uid : Bytes := [0x04, 0x9C, 0xD1, 0x1A, 0x6F, 0x23, 0x80, 0x07, 0x31, 0x55]
    let c := Connection.new ({ replies := [uid ++ [0x90, 0x00]] } : Card) "ACS ACR122U"
    let tx : Bytes := [0x61, 0x07, 0xFF, 0xFF, 0xFF, 0xFF, 0xFF, 0xFF]
    let reader : ApduScript := { replies := [.ok [], .ok [0x90, 0x00]] }
    (ApduScript.exchange (Feitian.keyCommand tx) Feitian.responseCapacity reader).result = .ok [] ∧
      (Connection.Demanding.getData .uid c).result = .ok uid ∧
      (Feitian.Demanding.authenticate ApduScript.exchange 0x61 tx 2 reader).result =
        .ok [0x90, 0x00] := by
  intro uid c tx reader
  have hempty : (ApduScript.exchange (Feitian.keyCommand tx) Feitian.responseCapacity reader).result
      = .ok [] := rfl
  have hbuffer : ∀ reply, (ApduScript.exchange (Feitian.keyCommand tx) Feitian.responseCapacity
      reader).result = .ok reply → reply.length ≤ maxSize := by
    rintro reply hreply
    rw [hempty, Except.ok.injEq] at hreply
    rw [← hreply]
    exact Nat.zero_le _
  obtain ⟨-, hitem, hkey⟩ :=
    copies_whole_and_unrefused .uid c ApduScript.exchange 0x61 tx 2 reader
  exact ⟨hempty, hitem.2.1, (hkey hbuffer).2.1⟩

end Pcsc

end NearField
