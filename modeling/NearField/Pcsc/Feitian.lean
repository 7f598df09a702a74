import NearField.BoundedCopy
import NearField.Hex

/-!
# Feitian readers

These readers do not pass the commands of Classic tags through.  `Feitian.route` recodes each
as the storage card command of the reader; all else goes through unchanged.
-/

namespace NearField.Pcsc.Feitian

variable {σ : Type}

/-- Room for the reply to a recoded command: 256 bytes and a status word. -/
def responseCapacity : Nat := 256 + 2

/-- The most bytes that pass unchanged. -/
def maxPassThrough : Nat := 256

/-- The most payload bytes behind an opcode and a block number. -/
def maxPayload : Nat := 256 - 5

/-- The spellings that tell a reader by its name. -/
def spellings : List String := ["Feitian", "FeiTian", "feitian", "FEITIAN"]

/-- Whether a text contains another. -/
def contains (part : List Char) : List Char → Bool
  | [] => part.isEmpty
  | c :: cs => part.isPrefixOf (c :: cs) || contains part cs

/-- Whether a reader's name tells that it is one of these. -/
def isFeitian (name : String) : Bool := spellings.any fun s => contains s.toList name.toList

/-- A way to exchange one command of the reader. -/
abbrev Exchange (σ : Type) : Type := Bytes → Nat → Op σ Bytes

/-- Logs bytes that cross the wire. -/
def logBytes (what : String) (bytes : Bytes) : Op σ Unit :=
  Act.log .trace Log.pcscTopic (what ++ ": " ++ Hex.spaced bytes)

/-- Exchanges a command of the reader; a reply that the caller has no room for is a chip
error. -/
def execute (exchange : Exchange σ) (apdu : Bytes) (capacity : Nat) : Op σ Bytes := do
  logBytes "feitian reader pcsc apdu send" apdu
  let response ← exchange apdu responseCapacity
  logBytes "feitian reader pcsc apdu received" response
  Act.require (response.length ≤ capacity) .chip
  return response

/-- Reads a block of sixteen bytes. -/
def read (exchange : Exchange σ) (tx : Bytes) (capacity : Nat) : Op σ Bytes :=
  match tx with
  | _ :: block :: _ => execute exchange [0xFF, 0xB0, 0x00, block, 0x10] capacity
  | _ => throw .invalidArgument

/-- Writes a payload to a block. -/
def write (exchange : Exchange σ) (tx : Bytes) (capacity : Nat) : Op σ Bytes :=
  match tx with
  | _ :: block :: data => do
    Act.require (data.length ≤ maxPayload) .chip
    execute exchange (0xFF :: 0xD6 :: 0x00 :: block :: UInt8.ofNat data.length :: data) capacity
  | _ => throw .invalidArgument

/-- The command that loads a key into the volatile slot. -/
def loadKey (tx : Bytes) : Op σ Bytes := do
  let key ← BoundedCopy.copyOp (List.replicate 6 0) ((tx.take 8).drop 2) 6
  return [0xFF, 0x82, 0x00, 0x01, 0x06] ++ key

/-- Loads the key behind opcode and block, then authenticates the block with it; the opcode
tells which key it is.  Key and reply are wiped. -/
def authenticate (exchange : Exchange σ) (command : UInt8) (tx : Bytes) (capacity : Nat) :
    Op σ Bytes := do
  Act.require (8 ≤ tx.length) .invalidArgument
  let load ← loadKey tx
  let loaded ← (exchange load responseCapacity).attempt
  BoundedCopy.wipeOp load
  let reply ← Act.ofExcept loaded
  if !reply.isEmpty then BoundedCopy.wipeOp reply
  execute exchange [0xFF, 0x86, 0x00, 0x00, 0x05, 0x01, 0x00, tx.getD 1 0, command, 0x01] capacity

/-- Changes the value in a block; storing a value announces its length, the other operations
five bytes. -/
def valueOperation (exchange : Exchange σ) (command : UInt8) (tx : Bytes) (capacity : Nat) :
    Op σ Bytes :=
  match tx with
  | _ :: block :: payload => do
    Act.require (payload.length ≤ maxPayload) .chip
    let (ins, lc) := if command = 0xC2 then (0xD8, UInt8.ofNat payload.length) else (0xD7, 0x05)
    execute exchange (0xFF :: ins :: 0x00 :: block :: lc :: payload) capacity
  | _ => throw .invalidArgument

/-- Passes a command through. -/
def passThrough (exchange : Exchange σ) (tx : Bytes) (capacity : Nat) : Op σ Bytes := do
  Act.require (tx.length ≤ maxPassThrough) .chip
  execute exchange tx capacity

/-- Recodes a command by its opcode and exchanges it. -/
def route (exchange : Exchange σ) (tx : Bytes) (capacity : Nat) : Op σ Bytes :=
  match tx with
  | [] => throw .invalidArgument
  | command :: _ =>
    if command = 0x30 then read exchange tx capacity
    else if command = 0xA0 ∨ command = 0xA2 then write exchange tx capacity
    else if command = 0x60 ∨ command = 0x61 ∨ command = 0x1A then
      authenticate exchange command tx capacity
    else if command = 0xC0 ∨ command = 0xC1 ∨ command = 0xC2 then
      valueOperation exchange command tx capacity
    else passThrough exchange tx capacity

end NearField.Pcsc.Feitian
