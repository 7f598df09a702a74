import NearField.Pcsc.Channel
import NearField.Simulated.Card
import NearField.Simulated.Faults
import NearField.Simulated.Line
import NearField.Simulated.ScriptedReader

/-!
# A bench of simulated hardware

The ports and card readers that drivers find, each with a name and a plan of faults, and the
events of all of them in one order.  A call is recorded first, then its fault is taken, and
what remains goes to the hardware.  Keys into the bench are the handles that claimed hardware
is known by, so that two claims of one port share its line.
-/

namespace NearField.Simulated

open Pcsc

/-- What a serial port saw. -/
inductive PortEvent where
  | claim
  | speed (bauds : UInt32)
  | flush (wait : Bool)
  | send (data : Bytes) (timeout : Timeout)
  | receive (length : Nat) (timeout : Timeout) (watched : Bool)
  | close
  deriving DecidableEq, Repr

/-- What a card reader saw. -/
inductive CardEvent where
  | connect (share : ShareMode) (protocols : Protocols)
  | status
  | transmit (apdu : Bytes) (capacity : Nat)
  | getAttribute (a : Attribute)
  | reconnect (share : ShareMode) (protocols : Protocols) (d : Disposition)
  | disconnect (d : Disposition)
  deriving DecidableEq, Repr

/-- What a piece of hardware of some name saw. -/
inductive BenchEvent where
  | port (name : String) (e : PortEvent)
  | card (name : String) (e : CardEvent)
  deriving DecidableEq, Repr

/-- A port on the bench. -/
structure BenchPort where
  name : String
  line : Line := {}
  faults : Faults WireFault := {}
  deriving DecidableEq, Repr, Inhabited

/-- A card reader on the bench. -/
structure BenchCard where
  name : String
  card : Card := {}
  faults : Faults Scard := {}
  deriving DecidableEq, Repr, Inhabited

/-- A driver's scripted readers: what a scan reports, whether claiming fails, what was claimed,
and the one reader behind all claims. -/
structure BenchReader where
  name : String
  reports : List String := []
  failing : Option Error := none
  claimed : List String := []
  reader : ScriptedReader := {}
  deriving Inhabited

/-- The hardware and what it saw. -/
structure Bench where
  ports : List BenchPort := []
  cards : List BenchCard := []
  readers : List BenchReader := []
  events : List BenchEvent := []

/-- The handle of a port. -/
structure PortKey where
  index : Nat
  deriving DecidableEq, Repr

/-- The handle of a card reader. -/
structure CardKey where
  index : Nat
  deriving DecidableEq, Repr

/-- The handle of a scripted reader. -/
structure ReaderKey where
  index : Nat
  deriving DecidableEq, Repr

namespace Bench

variable {ε α : Type}

/-- The port of a handle. -/
def port (b : Bench) (k : PortKey) : BenchPort := b.ports.getD k.index default

/-- The card reader of a handle. -/
def card (b : Bench) (k : CardKey) : BenchCard := b.cards.getD k.index default

/-- The scripted reader of a handle. -/
def reader (b : Bench) (k : ReaderKey) : BenchReader := b.readers.getD k.index default

/-- Exchanges a port. -/
def setPort (b : Bench) (k : PortKey) (p : BenchPort) : Bench :=
  { b with ports := b.ports.set k.index p }

/-- Exchanges a card reader. -/
def setCard (b : Bench) (k : CardKey) (c : BenchCard) : Bench :=
  { b with cards := b.cards.set k.index c }

/-- Exchanges a scripted reader. -/
def setReader (b : Bench) (k : ReaderKey) (r : BenchReader) : Bench :=
  { b with readers := b.readers.set k.index r }

/-- Adds a port. -/
def addPort (b : Bench) (p : BenchPort) : PortKey × Bench :=
  (⟨b.ports.length⟩, { b with ports := b.ports ++ [p] })

/-- Adds a card reader. -/
def addCard (b : Bench) (c : BenchCard) : CardKey × Bench :=
  (⟨b.cards.length⟩, { b with cards := b.cards ++ [c] })

/-- Adds a scripted reader. -/
def addReader (b : Bench) (r : BenchReader) : ReaderKey × Bench :=
  (⟨b.readers.length⟩, { b with readers := b.readers ++ [r] })

/-- Adds several pieces of hardware of one kind. -/
def addAll {β κ : Type} (add : Bench → β → κ × Bench) (b : Bench) : List β → List κ × Bench
  | [] => ([], b)
  | x :: xs =>
    let (k, b) := add b x
    let (ks, b) := addAll add b xs
    (k :: ks, b)

/-- The handles of all ports. -/
def portKeys (b : Bench) : List PortKey := (List.range b.ports.length).map PortKey.mk

/-- The last of some handles whose port has a name. -/
def lastPort? (b : Bench) (keys : List PortKey) (name : String) : Option PortKey :=
  (keys.filter fun k => (b.port k).name == name).getLast?

/-- The handle of the port that was added last under a name. -/
def portKey? (b : Bench) (name : String) : Option PortKey := b.lastPort? b.portKeys name

/-- The handle of the card reader that was added last under a name. -/
def cardKey? (b : Bench) (name : String) : Option CardKey :=
  (((List.range b.cards.length).map CardKey.mk).filter fun k => (b.card k).name == name).getLast?

/-- The handle of the scripted reader that was added last under a name. -/
def readerKey? (b : Bench) (name : String) : Option ReaderKey :=
  (((List.range b.readers.length).map ReaderKey.mk).filter
    fun k => (b.reader k).name == name).getLast?

/-- Notes an event. -/
def record (b : Bench) (e : BenchEvent) : Bench := { b with events := b.events ++ [e] }

/-! ## Ports -/

/-- Runs an action of a port on the bench. -/
def onPort (k : PortKey) (a : Act ε BenchPort α) : Act ε Bench α :=
  a.zoom (·.port k) fun p b => b.setPort k p

/-- Takes the planned fault of a call. -/
def takePortFault (call : String) : Act ε BenchPort (Option WireFault) := do
  let p ← get
  set { p with faults := (p.faults.next call).2 }
  return (p.faults.next call).1

/-- Runs an action of the line of a port. -/
def onLine (a : Act ε Line α) : Act ε BenchPort α :=
  a.zoom BenchPort.line fun l p => { p with line := l }

/-- Records a call of a port and takes its fault. -/
def portCall (k : PortKey) (call : String) (e : PortEvent) : Act ε Bench (Option WireFault) := do
  modify fun b => b.record (.port (b.port k).name e)
  onPort k (takePortFault call)

/-- Runs an action on the bench below a key. -/
def below {κ : Type} (a : κ → Act ε Bench α) : Act ε (Bench × κ) α := fun s =>
  (a s.2).zoom Prod.fst (fun b s => (b, s.2)) s

/-- A call of a port whose fault keeps it from the line. -/
def lineCall (call : String) (e : PortEvent) (a : Op Line Unit) : Op (Bench × PortKey) Unit :=
  below fun k => do
    match ← portCall k call e with
    | some (.fails err) => throw err
    | _ => onPort k (onLine a)

/-- Sends bytes; a planned fault is reported after the line has taken them. -/
def send (data : Bytes) (timeout : Timeout) : Op (Bench × PortKey) Unit :=
  below fun k => do
    let fault ← portCall k "send" (.send data timeout)
    let sent ← (onPort k (onLine (SerialPort.send data timeout))).attempt
    match fault with
    | some (.fails err) => throw err
    | _ => Act.ofExcept sent

/-- Runs an action of the bench below its signal. -/
def belowSignal (a : Act ε (Bench × PortKey) α) : Act ε (Watched (Bench × PortKey)) α :=
  a.zoom Watched.hardware fun h w => { w with hardware := h }

/-- Runs a watched action of a line on the watched bench. -/
def onWatchedLine (a : Act ε (Watched Line) α) : Act ε (Watched (Bench × PortKey)) α := fun w =>
  let (b, k) := w.hardware
  let o := a ⟨(b.port k).line, w.signal⟩
  ⟨o.result, ⟨(b.setPort k { b.port k with line := o.state.hardware }, k), o.state.signal⟩, o.log⟩

/-- Receives bytes, unless a fault is planned; an abort that is planned comes before the call
looks at the signal. -/
def receive (n : Nat) (timeout : Timeout) (watched : Bool) :
    Op (Watched (Bench × PortKey)) Bytes := do
  match ← belowSignal (below fun k => portCall k "recv" (.receive n timeout watched)) with
  | some (.fails err) => throw err
  | some .aborts => if watched then modify Watched.raise
  | none => pure ()
  onWatchedLine (SerialPort.receive n timeout watched)

instance : SerialPort (Bench × PortKey) where
  setSpeed n := lineCall "speed" (.speed n) (SerialPort.setSpeed n)
  flush wait := lineCall "flush" (.flush wait) (SerialPort.flush wait)
  send := send
  receive := receive
  close s :=
    let b := s.1.record (.port (s.1.port s.2).name .close)
    (b.setPort s.2 { b.port s.2 with line := SerialPort.close (b.port s.2).line }, s.2)

/-- Claims one of some ports by name; the line is open again. -/
def claimPort (keys : List PortKey) (name : String) : Op Bench PortKey := do
  match (← get).lastPort? keys name with
  | none =>
    modify fun b => b.record (.port name .claim)
    throw .noSuchDevice
  | some k =>
    match ← portCall k "open" .claim with
    | some (.fails err) => throw err
    | _ =>
      onPort k (onLine (modify fun l => { l with closed := false }))
      return k

/-- Some ports of the bench as the ports of a host. -/
def portProvider (keys : List PortKey) : PortProvider Bench PortKey where
  ports b := keys.map fun k => (b.port k).name
  claim := claimPort keys

/-! ## Cards -/

/-- Runs an action of a card reader on the bench. -/
def onCard (k : CardKey) (a : Act ε BenchCard α) : Act ε Bench α :=
  a.zoom (·.card k) fun c b => b.setCard k c

/-- Takes the planned fault of a call. -/
def takeCardFault (call : String) : Act ε BenchCard (Option Scard) := do
  let c ← get
  set { c with faults := (c.faults.next call).2 }
  return (c.faults.next call).1

/-- A call of a card reader, which a fault keeps from the card. -/
def cardCall (k : CardKey) (call : String) (e : CardEvent) (a : Act Scard Card α) :
    Act Scard Bench α := do
  modify fun b => b.record (.card (b.card k).name e)
  match ← onCard k (takeCardFault call) with
  | some code => throw code
  | none => onCard k (a.zoom BenchCard.card fun x c => { c with card := x })

instance : CardChannel (Bench × CardKey) where
  status := below fun k => cardCall k "status" .status CardChannel.status
  transmit apdu capacity := below fun k =>
    cardCall k "transmit" (.transmit apdu capacity) (CardChannel.transmit apdu capacity)
  reconnect share protocols d := below fun k =>
    cardCall k "reconnect" (.reconnect share protocols d) (CardChannel.reconnect share protocols d)
  getAttribute a := below fun k =>
    cardCall k "attribute" (.getAttribute a) (CardChannel.getAttribute a)
  disconnect d s :=
    let b := s.1.record (.card (s.1.card s.2).name (.disconnect d))
    (b.setCard s.2 { b.card s.2 with card := CardChannel.disconnect d (b.card s.2).card }, s.2)

/-- Connects to the first of some card readers that has a name. -/
def connectCard (keys : List CardKey) (name : String) (share : ShareMode) (protocols : Protocols) :
    Act Scard Bench CardKey := do
  let b ← get
  match keys.find? fun k => (b.card k).name == name with
  | none =>
    modify fun b => b.record (.card name (.connect share protocols))
    throw .unknownReader
  | some k =>
    cardCall k "connect" (.connect share protocols) (modify fun c => c.connect share protocols)
    return k

/-- Some card readers of the bench as a smart card service, which may fail to list them. -/
def cardService (keys : List CardKey) (listError : Option Scard) : CardService Bench CardKey where
  readers := do
    match listError with
    | some e => throw e
    | none =>
      let b ← get
      return keys.map fun k => (b.card k).name
  connect := connectCard keys

end Bench

end NearField.Simulated
