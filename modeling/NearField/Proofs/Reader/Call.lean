import NearField.Reader

/-!
# Calls of a reader

What can be asked of any reader, as syntax: a `Reader.Call α` is an entry of the table with its
arguments, and `α` is what it answers.  Raising the signal and releasing the hardware are left out,
since they can not fail.
-/

namespace NearField.Reader

/-- An operation of a reader with its arguments. -/
inductive Call : Type → Type where
  | initiatorInit : Call Unit
  | secureElementInit : Call Unit
  | selectPassive (m : Modulation) (data : Bytes) : Call (Option Target)
  | pollTarget (ms : List Modulation) (rounds period : UInt8) : Call (Option Target)
  | selectDep (mode : DepMode) (rate : BaudRate) (initiator : Option DepInfo)
      (timeout : Timeout) : Call (Option Target)
  | deselect : Call Unit
  | transceiveBytes (tx : Bytes) (capacity : Nat) (timeout : Timeout) : Call Bytes
  | transceiveBits (tx : BitFrame) (capacity : Nat) : Call BitFrame
  | transceiveBytesTimed (tx : Bytes) (capacity : Nat) : Call (Bytes × Nat)
  | transceiveBitsTimed (tx : BitFrame) (capacity : Nat) : Call (BitFrame × Nat)
  | targetIsPresent (t : Option Target) : Call Unit
  | targetInit (target : Target) (capacity : Nat) (timeout : Timeout) : Call Bytes
  | targetSendBytes (tx : Bytes) (timeout : Timeout) : Call Nat
  | targetReceiveBytes (capacity : Nat) (timeout : Timeout) : Call Bytes
  | targetSendBits (tx : BitFrame) : Call Nat
  | targetReceiveBits (capacity : Nat) : Call BitFrame
  | setBool (p : Property) (enable : Bool) : Call Unit
  | setInt (p : Property) (value : Int) : Call Unit
  | families (mode : Mode) : Call (List Family)
  | baudRates (mode : Mode) (f : Family) : Call (List BaudRate)
  | information : Call String
  | abortCommand : Call Unit
  | idle : Call Unit
  | powerDown : Call Unit

variable {σ α : Type} [Reader σ]

/-- Runs a call.  What the played target learns on the way belongs to the caller. -/
def Call.run : Call α → Op σ α
  | .initiatorInit => Reader.initiatorInit
  | .secureElementInit => Reader.secureElementInit
  | .selectPassive m data => Reader.selectPassive m data
  | .pollTarget ms rounds period => Reader.pollTarget ms rounds period
  | .selectDep mode rate initiator timeout => Reader.selectDep mode rate initiator timeout
  | .deselect => Reader.deselect
  | .transceiveBytes tx capacity timeout => Reader.transceiveBytes tx capacity timeout
  | .transceiveBits tx capacity => Reader.transceiveBits tx capacity
  | .transceiveBytesTimed tx capacity => Reader.transceiveBytesTimed tx capacity
  | .transceiveBitsTimed tx capacity => Reader.transceiveBitsTimed tx capacity
  | .targetIsPresent t => Reader.targetIsPresent t
  | .targetInit target capacity timeout =>
    (Reader.targetInit capacity timeout).zoom (fun r => (target, r)) fun s _ => s.2
  | .targetSendBytes tx timeout => Reader.targetSendBytes tx timeout
  | .targetReceiveBytes capacity timeout => Reader.targetReceiveBytes capacity timeout
  | .targetSendBits tx => Reader.targetSendBits tx
  | .targetReceiveBits capacity => Reader.targetReceiveBits capacity
  | .setBool p enable => Reader.setBool p enable
  | .setInt p value => Reader.setInt p value
  | .families mode => Reader.families mode
  | .baudRates mode f => Reader.baudRates mode f
  | .information => Reader.information
  | .abortCommand => Reader.abortCommand
  | .idle => Reader.idle
  | .powerDown => Reader.powerDown

end NearField.Reader
