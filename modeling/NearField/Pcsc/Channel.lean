import NearField.Act
import NearField.Pcsc.Scard

/-!
# Card channels

A `CardChannel` is a connection to one reader of a smart card service.  A `CardService` lists
readers and connects to them.
-/

namespace NearField.Pcsc

/-- The access that is asked for when connecting. -/
inductive ShareMode where
  /-- No other application may connect. -/
  | exclusive
  /-- Other applications may connect too. -/
  | shared
  /-- Talk to the reader even without a card. -/
  | direct
  deriving DecidableEq, Repr

/-- The short name of an access. -/
def ShareMode.name : ShareMode → String
  | .exclusive => "Exclusive"
  | .shared => "Shared"
  | .direct => "Direct"

instance : Named ShareMode := ⟨[.exclusive, .shared, .direct], ShareMode.name⟩

/-- The card protocols that are accepted. -/
inductive Protocols where
  | unspecified
  | t0
  | t1
  | any
  deriving DecidableEq, Repr

/-- The short name of a choice of protocols. -/
def Protocols.name : Protocols → String
  | .unspecified => "Undefined"
  | .t0 => "T0"
  | .t1 => "T1"
  | .any => "Any"

instance : Named Protocols := ⟨[.unspecified, .t0, .t1, .any], Protocols.name⟩

/-- What happens to the card when a connection is renewed or dropped. -/
inductive Disposition where
  | leaveCard
  | resetCard
  | unpowerCard
  | ejectCard
  deriving DecidableEq, Repr

/-- The short name of what happens to the card. -/
def Disposition.name : Disposition → String
  | .leaveCard => "LeaveCard"
  | .resetCard => "ResetCard"
  | .unpowerCard => "UnpowerCard"
  | .ejectCard => "EjectCard"

instance : Named Disposition :=
  ⟨[.leaveCard, .resetCard, .unpowerCard, .ejectCard], Disposition.name⟩

/-- The attributes of a reader that are asked for. -/
inductive Attribute where
  | vendorName
  | vendorIfdType
  | vendorIfdVersion
  | vendorIfdSerialNo
  /-- One byte: five for type A, six for type B, zero for unknown. -/
  | iccTypePerAtr
  deriving DecidableEq, Repr

namespace Attribute

/-- All attributes. -/
def all : List Attribute :=
  [.vendorName, .vendorIfdType, .vendorIfdVersion, .vendorIfdSerialNo, .iccTypePerAtr]

/-- The short name of an attribute. -/
def name : Attribute → String
  | .vendorName => "VendorName"
  | .vendorIfdType => "VendorIfdType"
  | .vendorIfdVersion => "VendorIfdVersion"
  | .vendorIfdSerialNo => "VendorIfdSerialNo"
  | .iccTypePerAtr => "IccTypePerAtr"

instance : Named Attribute := ⟨all, name⟩

end Attribute

/-- Whether a card is present, and how it answered to reset. -/
structure CardStatus where
  present : Bool := false
  atr : Bytes := []
  deriving DecidableEq, Repr

/-- A connection to one reader with state `σ`. -/
class CardChannel (σ : Type) where
  /-- Asks for the card. -/
  status : Act Scard σ CardStatus
  /-- Sends a command; the reply, status word included, has to fit the given capacity. -/
  transmit : Bytes → Nat → Act Scard σ Bytes
  /-- Renews the connection with other parameters. -/
  reconnect : ShareMode → Protocols → Disposition → Act Scard σ Unit
  /-- Asks for an attribute. -/
  getAttribute : Attribute → Act Scard σ Bytes
  /-- Drops the connection. -/
  disconnect : Disposition → σ → σ

/-- A service with state `ω` whose connections are known by keys of type `κ`. -/
structure CardService (ω κ : Type) where
  /-- The names of the readers in the service's order. -/
  readers : Act Scard ω (List String)
  /-- Connects to a reader by name. -/
  connect : String → ShareMode → Protocols → Act Scard ω κ

end NearField.Pcsc
