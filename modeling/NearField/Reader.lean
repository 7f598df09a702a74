import NearField.Abort
import NearField.Checked
import NearField.Target
import NearField.Timeout

/-!
# Readers

The table of what a reader can do.  A state that is a `Reader` has an operation for every
entry; an entry that an instance leaves out reports that the device does not support it.
-/

namespace NearField

/-- The operations of a claimed reader with state `σ`. -/
class Reader (σ : Type) where
  /-- The reader's own words for an error, if it knows better than the generic table. -/
  describe? : σ → Error → Option String := fun _ _ => none
  /-- Prepares the reader as an initiator. -/
  initiatorInit : Op σ Unit := throw .deviceNotSupported
  /-- Prepares the reader to talk to a secure element. -/
  secureElementInit : Op σ Unit := throw .deviceNotSupported
  /-- Selects one passive target; the data is in wire form.  None means that nothing
  answered. -/
  selectPassive : Modulation → Bytes → Op σ (Option Target) := fun _ _ => throw .deviceNotSupported
  /-- Polls for a target of one of several modulations, for a number of rounds of some
  period. -/
  pollTarget : List Modulation → UInt8 → UInt8 → Op σ (Option Target) :=
    fun _ _ _ => throw .deviceNotSupported
  /-- Polls likewise, and stops where a number that the poll works with leaves its range. -/
  pollChecked : List Modulation → UInt8 → UInt8 → Checked σ (Option Target) :=
    fun ms rounds period => Checked.lift (pollTarget ms rounds period)
  /-- Selects a peer device. -/
  selectDep : DepMode → BaudRate → Option DepInfo → Timeout → Op σ (Option Target) :=
    fun _ _ _ _ => throw .deviceNotSupported
  /-- Lets the selected target go. -/
  deselect : Op σ Unit := throw .deviceNotSupported
  /-- Exchanges bytes with the selected target; the answer has to fit the given capacity. -/
  transceiveBytes : Bytes → Nat → Timeout → Op σ Bytes := fun _ _ _ => throw .deviceNotSupported
  /-- Exchanges a raw frame of bits. -/
  transceiveBits : BitFrame → Nat → Op σ BitFrame := fun _ _ => throw .deviceNotSupported
  /-- Exchanges bytes and measures the cycles until the answer. -/
  transceiveBytesTimed : Bytes → Nat → Op σ (Bytes × Nat) := fun _ _ => throw .deviceNotSupported
  /-- Exchanges a raw frame and measures the cycles until the answer. -/
  transceiveBitsTimed : BitFrame → Nat → Op σ (BitFrame × Nat) :=
    fun _ _ => throw .deviceNotSupported
  /-- Succeeds if the target, or any selected target, is still there. -/
  targetIsPresent : Option Target → Op σ Unit := fun _ => throw .deviceNotSupported
  /-- Plays a target, which learns the speed it was activated at, and waits for the first
  command. -/
  targetInit : Nat → Timeout → Op (Target × σ) Bytes := fun _ _ => throw .deviceNotSupported
  /-- Answers the initiator. -/
  targetSendBytes : Bytes → Timeout → Op σ Nat := fun _ _ => throw .deviceNotSupported
  /-- Waits for a command of the initiator. -/
  targetReceiveBytes : Nat → Timeout → Op σ Bytes := fun _ _ => throw .deviceNotSupported
  /-- Answers the initiator with a raw frame. -/
  targetSendBits : BitFrame → Op σ Nat := fun _ => throw .deviceNotSupported
  /-- Waits for a raw frame of the initiator. -/
  targetReceiveBits : Nat → Op σ BitFrame := fun _ => throw .deviceNotSupported
  /-- Turns a switch on or off. -/
  setBool : Property → Bool → Op σ Unit := fun _ _ => throw .deviceNotSupported
  /-- Sets a number. -/
  setInt : Property → Int → Op σ Unit := fun _ _ => throw .deviceNotSupported
  /-- The families the reader supports in a mode. -/
  families : Mode → Op σ (List Family) := fun _ => throw .deviceNotSupported
  /-- The speeds the reader supports for a family. -/
  baudRates : Mode → Family → Op σ (List BaudRate) := fun _ _ => throw .deviceNotSupported
  /-- A text about the reader. -/
  information : Op σ String := throw .deviceNotSupported
  /-- The abort signal that blocking calls watch, if there is one. -/
  signal? : σ → Option AbortSignal := fun _ => none
  /-- Raises the abort signal from outside. -/
  raiseSignal : σ → σ := id
  /-- The microseconds that have passed while the hardware was waited for. -/
  clock : σ → Nat := fun _ => 0
  /-- Cancels the blocking call that runs, or the next one. -/
  abortCommand : Op σ Unit := throw .deviceNotSupported
  /-- Switches the field off and lets all targets go. -/
  idle : Op σ Unit := throw .deviceNotSupported
  /-- Puts the chip to sleep. -/
  powerDown : Op σ Unit := throw .deviceNotSupported
  /-- Releases the hardware; nothing can go wrong that a caller would learn of. -/
  close : Act Empty σ Unit := pure ()

/-- A reader that can do nothing. -/
structure BareReader where
  deriving DecidableEq, Repr

instance : Reader BareReader where

end NearField
