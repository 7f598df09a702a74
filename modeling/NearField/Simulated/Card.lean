import NearField.Pcsc.Channel

/-!
# Simulated cards

A card reader in memory.  It answers commands with scripted replies and records what was asked
of it.
-/

namespace NearField.Simulated

open Pcsc

/-- A card reader in memory. -/
structure Card where
  present : Bool := false
  atr : Bytes := []
  /-- The code that asking for the card fails with, while set. -/
  statusError : Option Scard := none
  replies : List Bytes := []
  sent : List Bytes := []
  capacities : List Nat := []
  attributes : List (Attribute × Bytes) := []
  connectedWith : Option (ShareMode × Protocols) := none
  reconnects : List (ShareMode × Protocols × Disposition) := []
  disconnected : Option Disposition := none
  deriving DecidableEq, Repr

namespace Card

/-- Lays a card on the reader. -/
def insert (c : Card) (atr : Bytes) : Card := { c with present := true, atr := atr }

/-- Takes the card away. -/
def remove (c : Card) : Card := { c with present := false, atr := [] }

/-- Scripts the reply to the next unanswered command. -/
def script (c : Card) (reply : Bytes) : Card := { c with replies := c.replies ++ [reply] }

/-- Gives an attribute a value. -/
def setAttribute (c : Card) (a : Attribute) (value : Bytes) : Card :=
  { c with attributes := (a, value) :: c.attributes }

/-- Notes the parameters of a new connection. -/
def connect (c : Card) (share : ShareMode) (protocols : Protocols) : Card :=
  { c with connectedWith := some (share, protocols), disconnected := none }

/-- Tells whether there is a card, and its answer to reset. -/
def status : Act Scard Card CardStatus := do
  let c ← get
  match c.statusError with
  | some e => throw e
  | none => return ⟨c.present, c.atr⟩

/-- Records a command and takes its reply: without one the transaction fails, and one that is
longer than the capacity is refused. -/
def transmit (apdu : Bytes) (capacity : Nat) : Act Scard Card Bytes := do
  modify fun c => { c with sent := c.sent ++ [apdu], capacities := c.capacities ++ [capacity] }
  match (← get).replies with
  | [] => throw .notTransacted
  | reply :: rest =>
    modify fun c => { c with replies := rest }
    Act.require (reply.length ≤ capacity) .insufficientBuffer
    return reply

/-- Records the parameters of a renewed connection. -/
def reconnect (share : ShareMode) (protocols : Protocols) (d : Disposition) : Act Scard Card Unit :=
  modify fun c => { c with reconnects := c.reconnects ++ [(share, protocols, d)] }

/-- Looks an attribute up. -/
def getAttribute (a : Attribute) : Act Scard Card Bytes := do
  Act.ofOption .unsupportedFeature ((← get).attributes.lookup a)

instance : CardChannel Card where
  status := status
  transmit := transmit
  reconnect := reconnect
  getAttribute := getAttribute
  disconnect d c := { c with disconnected := some d }

end Card

end NearField.Simulated
