import NearField.Arygon.Link
import NearField.Driver
import NearField.Pn53x.Chip

/-!
# The driver of ARYGON readers

A connection string is `arygon:port` or `arygon:port:speed`.  Looking for readers resets
whatever is behind each port, which is why a scan is intrusive.
-/

namespace NearField.Arygon

/-- The driver's name. -/
def driverName : String := "arygon"

/-- The speed that is used unless another is asked for. -/
def defaultSpeed : Nat := 9600

/-- The fastest speed. -/
def maxSpeed : Nat := 115200

/-- The cycles by which the timer of these readers runs over. -/
def timerCorrection : UInt16 := 46

/-- Reads digits as a number below 2^32; a plus sign may stand in front. -/
def parseSpeed? (s : String) : Option Nat :=
  let digits := match s.toList with
    | '+' :: cs => cs
    | cs => cs
  let value := digits.foldl (fun n c => 10 * n + (c.toNat - '0'.toNat)) 0
  if !digits.isEmpty && digits.all Char.isDigit && value < Nat.pow 2 32 then some value else none

/-- The port and the speed that a connection string asks for. -/
def address {σ : Type} (c : ConnString) : Op σ (String × Nat) := do
  match ConnString.decode c.text driverName "" with
  | .one port => return (port, defaultSpeed)
  | .two port speed =>
    match parseSpeed? speed with
    | some n => return (port, n)
    | none =>
      Act.log .error Log.arygonTopic ("Invalid speed format: " ++ speed)
      throw .invalidArgument
  | _ => throw .invalidArgument

/-- Finds out whether a reader is behind the port, and what it is.  A chip that does not say
what it is may still be used. -/
def prepare {σ : Type} [SerialPort σ] (port : String) : Op (Pn53x.Chip (Link σ)) String := do
  if let .error e ← (Pn53x.Chip.onLink Link.reset).attempt then
    modify (Pn53x.Chip.mapLink Link.close)
    throw e
  let version ← Pn53x.Chip.onLink Link.firmware
  modify fun c => { c with timerCorrection := timerCorrection }
  if let .error e ← Pn53x.Chip.identify.attempt then
    Act.log .warn Log.arygonTopic ("PN53x initialisation failed: " ++ e.text)
  return driverName ++ ":" ++ port ++ " " ++ version

/-- Asks whether a reader is behind the port, and releases the port. -/
def probe {σ : Type} [SerialPort σ] : Act Empty (Link σ) Bool := do
  let answer ← Link.reset.attempt
  modify Link.close
  return answer.toBool

section

variable {ω π : Type} [SerialPort (ω × π)]

/-- The link over a claimed port. -/
def linkOver (key : π) (w : ω) : Link (ω × π) := ⟨{ hardware := (w, key) }⟩

/-- The world below a link. -/
def worldOf (l : Link (ω × π)) : ω := l.line.hardware.1

/-- The handle of a link, without the world below it. -/
def handleOf (l : Link (ω × π)) : Link π := l.map Prod.snd

/-- Claims a port, discards old input and sets the speed. -/
def openPort (provider : PortProvider ω π) (name : String) (speed : Nat) : Op ω π := do
  if speed = 0 ∨ maxSpeed < speed then
    Act.log .error Log.arygonTopic ("Invalid baud rate: " ++ toString speed)
    throw .invalidArgument
  Act.log .debug Log.arygonTopic
    ("Attempting to open: " ++ name ++ " at " ++ toString speed ++ " baud")
  match ← (provider.claim name).attempt with
  | .error e =>
    Act.log .error Log.arygonTopic ("Invalid serial port: " ++ name)
    throw e
  | .ok key =>
    let (ready, _, _) ← Act.around (fun w => (w, key)) Prod.fst do
      SerialPort.flush true
      SerialPort.setSpeed (UInt32.ofNat speed)
    Act.ofExcept ready
    return key

/-- The connection string of a port if a reader is behind it. -/
def scanPort (provider : PortProvider ω π) (name : String) : Act Empty ω (Option ConnString) := do
  match ← (openPort provider name defaultSpeed).attempt with
  | .error _ => return none
  | .ok key =>
    match ← (ConnString.buildPositional driverName [name, toString defaultSpeed]).attempt with
    | .error _ =>
      Act.log .warn Log.arygonTopic ("Connection string truncated for port: " ++ name)
      modify fun w => (SerialPort.close (w, key)).1
      return none
    | .ok c =>
      match ← Act.around (linkOver key) worldOf probe with
      | (.ok true, _) => return some c
      | _ => return none

/-- Looks behind ports for some readers at most. -/
def scanPorts (provider : PortProvider ω π) : Nat → List String → Act Empty ω (List ConnString)
  | 0, _ | _, [] => pure []
  | room + 1, name :: names => do
    match ← scanPort provider name with
    | none => scanPorts provider (room + 1) names
    | some c => return c :: (← scanPorts provider room names)

/-- Claims the reader behind a port. -/
def claim (provider : PortProvider ω π) (c : ConnString) :
    Op ω (Claim (Pn53x.Chip (Link π))) := do
  let (port, speed) ← address c
  let key ← openPort provider port speed
  let (name, chip) ←
    Act.around (fun w => { link := linkOver key w }) (worldOf ·.link) (prepare port)
  return ⟨← Act.ofExcept name, chip.mapLink handleOf⟩

/-- The driver over the ports of a host. -/
def driver (provider : PortProvider ω π) : Driver ω (Pn53x.Chip (Link π)) where
  name := driverName
  scanType := .intrusive
  scan max := do scanPorts provider max (provider.ports (← get))
  claim := claim provider

end

end NearField.Arygon
