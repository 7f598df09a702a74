import NearField.Proofs.Frame.InRange
import NearField.Proofs.Pn53x.Guarded
import NearField.Usb.Link

/-!
# A bulk link stays in range

What a link over a bulk pipe does with the transfers it reads once more, with the accesses it takes
checked: the bytes of the transfer in the buffer it is read into, the places of the frame it
carries, and the part of the caller's buffer that the parameters go to.  A pipe that succeeds in
reading gives no more bytes than there is room for (`Within`); which bytes these are does not
matter.

Sending and receiving then pass (`sound_guards`).
-/

namespace NearField.Usb

open Checked Link

/-- A pipe that succeeds in reading gives no more bytes than there is room for. -/
def Within (σ : Type) [BulkPipe σ] : Prop :=
  ∀ room micros : Nat,
    Act.Gives (fun bs : Bytes => bs.length ≤ room)
      (BulkPipe.read room micros : Op (Watched σ) Bytes)

namespace Guarding

variable {σ α : Type} [BulkPipe σ]

/-- Sends a command and waits for the acknowledgement. -/
def send (data : Bytes) (timeout : Timeout) : Checked (Link σ) Unit := do
  let frame ← lift (Frame.encodeOp data)
  if let .error e ← attempt (lift (onPipe (BulkPipe.write frame (timeout.duration?.getD 0)))) then
    lift (fail e ("Unable to write to USB (" ++ e.text ++ ")"))
  match ← attempt (lift (readTransfer timeout)) with
  | .error e => lift (fail e ("Unable to read ACK (" ++ e.text ++ ")"))
  | .ok reply =>
    front transferSize reply.length
    if !Frame.isAck reply then
      lift (fail .io ("Unexpected PN53x reply! " ++ Hex.spaced reply))

/-- Waits for the reply to a command. -/
def receive (capacity : Nat) (command : UInt8) (timeout : Timeout) : Checked (Link σ) Bytes := do
  match ← attempt (lift (readTransfer timeout)) with
  | .error e =>
    if e = .operationAborted ∨ e = .timeout then lift cancel
    throw (.error e)
  | .ok transfer =>
    front transferSize transfer.length
    let params ← Frame.decodeChecked transfer command
    if capacity < params.length then
      lift (fail .io ("Buffer too small (szDataLen: " ++ toString capacity ++ ", len: "
        ++ toString params.length ++ ")"))
    front capacity params.length
    return params

/-- Sending and receiving with checks. -/
def guards : Pn53x.Guards (Link σ) where
  send := send
  receive := receive

omit [BulkPipe σ] in
/-- A failure that is told gives nothing at all. -/
theorem gives_fail (e : Error) (message : String) :
    Act.Gives (fun _ => False) (fail e message : Op (Link σ) α) :=
  .after fun _ => Act.gives_throw e

variable (h : Within σ)
include h

/-- Slices that end in bytes end in no more than a transfer holds. -/
theorem gives_readSlices (slices : Nat) (left : Option Nat) :
    Act.Gives (fun bs : Bytes => bs.length ≤ transferSize)
      (readSlices slices left : Op (Watched σ) Bytes) := by
  induction slices generalizing left with
  | zero => exact Act.gives_throw _
  | succ slices ih =>
      refine .optionally (.after fun before => ?_)
      refine (h transferSize _).attempt.bind fun found hfound => ?_
      split
      · exact .after fun w => .after fun _ => .optionally (ih _)
      · exact Act.gives_ofExcept hfound

/-- A transfer is no longer than the room for it, however long it was waited for. -/
theorem gives_readTransfer (t : Timeout) :
    Act.Gives (fun bs : Bytes => bs.length ≤ transferSize)
      (readTransfer t : Op (Link σ) Bytes) := by
  unfold readTransfer
  refine .zoom ?_
  cases t.duration? with
  | some ms => exact gives_readSlices h _ _
  | none => exact gives_readSlices h _ _

/-- A frame for an acknowledgement is looked for in a transfer that fits its buffer. -/
theorem passes_send (data : Bytes) (t : Timeout) :
    Passes Eq (send data t : Checked (Link σ) Unit) (Link.send data t) := by
  refine (passes_refl _).bind fun frame => (passes_refl _).attempt.bind fun written => ?_
  cases written with
  | error e => exact (passes_refl _).bind_gives (gives_fail _ _) fun _ hnever => hnever.elim
  | ok n =>
      refine (passes_refl _).attempt.bind_gives (gives_readTransfer h t).attempt fun r hr => ?_
      cases r with
      | error e => exact passes_refl _
      | ok reply =>
          dsimp only
          rw [front_eq (hr reply rfl), pure_bind]
          exact .ite (passes_refl _) (passes_pure ())

/-- The parameters are copied only once they are known to fit the buffer of the caller. -/
theorem passes_receive (capacity : Nat) (command : UInt8) (t : Timeout) :
    Passes Eq (receive capacity command t : Checked (Link σ) Bytes)
      (Link.receive capacity command t) := by
  refine (passes_refl _).attempt.bind_gives (gives_readTransfer h t).attempt fun r hr => ?_
  cases r with
  | error e =>
      exact .optionally (passes_refl _) (passes_throw e)
  | ok transfer =>
      dsimp only
      rw [front_eq (hr transfer rfl), pure_bind]
      refine (Frame.passes_decodeChecked transfer command).bind fun params => ?_
      by_cases hlong : capacity < params.length
      · rw [if_pos hlong, if_pos hlong]
        exact (passes_refl _).bind_gives (gives_fail _ _) fun _ hnever => hnever.elim
      · rw [if_neg hlong, if_neg hlong, front_eq (Nat.not_lt.mp hlong), pure_bind]
        exact passes_pure params

omit h in
/-- A link gives no more than it was asked for, whatever the pipe delivers. -/
theorem gives_receive (capacity : Nat) (command : UInt8) (t : Timeout) :
    Act.Gives (fun params : Bytes => params.length ≤ capacity)
      (Link.receive capacity command t : Op (Link σ) Bytes) := by
  refine .after fun r => ?_
  cases r with
  | error e => exact .optionally (Act.gives_throw e)
  | ok transfer =>
      refine .after fun params => ?_
      dsimp only
      by_cases hlong : capacity < params.length
      · rw [if_pos hlong]
        exact (gives_fail _ _).bind fun _ hnever => hnever.elim
      · rw [if_neg hlong]
        exact Act.gives_pure (Nat.not_lt.mp hlong)

/-- **No transfers lead a bulk link out of range.** -/
theorem sound_guards : (guards : Pn53x.Guards (Link σ)).Sound where
  send := passes_send h
  receive := passes_receive h
  fits := gives_receive

end Guarding

end NearField.Usb
