import NearField.Pn53x.Link

/-!
# Scripted chips

A link whose replies are written down beforehand.  It answers each command with the next reply
of the script and records what crosses it.
-/

namespace NearField.Simulated

/-- One entry of a script. -/
inductive ChipReply where
  /-- The parameters of a reply. -/
  | payload (bytes : Bytes)
  /-- Waiting for the reply fails. -/
  | receiveFails (e : Error)
  /-- Sending the next command fails. -/
  | sendFails (e : Error)
  deriving DecidableEq, Repr

/-- What a scripted link saw. -/
inductive ChipEvent where
  | send (command : Bytes) (timeout : Timeout)
  | close
  deriving DecidableEq, Repr

/-- A scripted link: the entries to come, what it saw, and how many commands came through. -/
structure ChipScript where
  replies : List ChipReply := []
  events : List ChipEvent := []
  sent : Nat := 0
  powerDown : Bool := true
  closed : Bool := false
  deriving DecidableEq, Repr

namespace ChipScript

/-- Records a command; it fails if the script says so. -/
def send (command : Bytes) (timeout : Timeout) : Op ChipScript Unit := do
  modify fun s => { s with events := s.events ++ [.send command timeout] }
  match (← get).replies with
  | .sendFails e :: rest =>
    modify fun s => { s with replies := rest }
    throw e
  | _ => modify fun s => { s with sent := s.sent + 1 }

/-- Takes the next reply; an empty script is silent. -/
def receive (capacity : Nat) (_ : UInt8) (_ : Timeout) : Op ChipScript Bytes := do
  match (← get).replies with
  | .payload bytes :: rest =>
    modify fun s => { s with replies := rest }
    Act.require (bytes.length ≤ capacity) .bufferOverflow
    return bytes
  | .receiveFails e :: rest =>
    modify fun s => { s with replies := rest }
    throw e
  | _ => throw .timeout

instance : Pn53x.ChipLink ChipScript where
  send := send
  receive := receive
  supportsPowerDown := ChipScript.powerDown
  close s := { s with events := s.events ++ [.close], closed := true }

end ChipScript

end NearField.Simulated
