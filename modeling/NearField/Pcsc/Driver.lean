import NearField.Driver
import NearField.Pcsc.Connection

/-!
# The driver of a smart card service

A connection string is `pcsc` for the first supported reader, `pcsc:n` for the one at place
`n`, and `pcsc:name` for any reader by name.
-/

namespace NearField.Pcsc

/-- The driver's name. -/
def driverName : String := "pcsc"

/-- How the names of supported readers start. -/
def supportedNames : List String :=
  ["ACS ACR122", "ACS ACR 38U-CCID", "ACS ACR38U-CCID", "ACS AET65", "    CCID USB"]

/-- Whether a scan reports a reader of this name. -/
def isSupported (name : String) : Bool :=
  supportedNames.any fun p => p.toList.isPrefixOf name.toList

/-- Reads the place of a reader: one to four digits. -/
def parseIndex? (s : String) : Option Nat :=
  let digits := s.toList
  if !digits.isEmpty && digits.length ≤ 4 && digits.all Char.isDigit then
    some (digits.foldl (fun n c => 10 * n + (c.toNat - '0'.toNat)) 0)
  else none

section

variable {ε ω κ : Type}

/-- Keeps some supported names at most; each other one that it passes is logged. -/
def supported : Nat → List String → Act ε ω (List String)
  | 0, _ | _, [] => pure []
  | room + 1, name :: names => do
    if isSupported name then return name :: (← supported room names)
    else
      Act.log .debug Log.pcscTopic
        ("Skipping PCSC device [" ++ name ++ "] as it is supported by acr122_pcsc driver.")
      supported (room + 1) names

/-- The names of some supported readers at most; a service that does not answer has none. -/
def scanNames (service : CardService ω κ) (max : Nat) : Act ε ω (List String) := do
  match ← service.readers.attempt with
  | .error e =>
    Act.log .info Log.pcscTopic
      "Warning: PCSC context not found (make sure PCSC daemon is running)."
    Act.log .debug Log.pcscTopic ("SCardListReaders: " ++ e.text)
    return []
  | .ok names => supported max names

/-- The name of the reader that a connection string asks for. -/
def resolve (service : CardService ω κ) (c : ConnString) : Op ω String := do
  match ConnString.decode c.text driverName driverName with
  | .foreign => throw .invalidArgument
  | .driver => Act.ofOption .noSuchDevice (← scanNames service 1).head?
  | .one name | .two name _ =>
    match parseIndex? name with
    | some i => Act.ofOption .noSuchDevice (← scanNames service (i + 1))[i]?
    | none => return name

/-- Keeps the names that fit a connection string. -/
def connStrings : List String → Act ε ω (List ConnString)
  | [] => pure []
  | name :: names => do
    let built ← (ConnString.buildPositional driverName [name]).attempt
    return built.toOption.toList ++ (← connStrings names)

/-- Connects to a reader without asking for a card. -/
def claim (service : CardService ω κ) (c : ConnString) : Op ω (Claim (Connection κ)) := do
  let name ← resolve service c
  Act.log .debug Log.pcscTopic ("Attempt to open " ++ name)
  match ← (service.connect name .direct .t0).attempt with
  | .ok key => return ⟨name, Connection.new key name⟩
  | .error e =>
    Act.log .debug Log.pcscTopic "PCSC connect failed"
    throw e.toError

/-- The driver over a smart card service. -/
def driver (service : CardService ω κ) : Driver ω (Connection κ) where
  name := driverName
  scan max := do connStrings (← scanNames service max)
  claim := claim service

end

end NearField.Pcsc
