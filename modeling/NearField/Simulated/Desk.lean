import NearField.Context
import NearField.Session
import NearField.Simulated.Claimed

/-!
# A desk of open devices

A bench, a context whose drivers look at it, and the devices that were opened, each in a slot
of its own.  The drivers are described by `DriverSetup`, which says what hardware each brings
to the bench.
-/

namespace NearField.Simulated

/-- A driver and the hardware that it brings. -/
inductive DriverSetup where
  /-- A driver of one scripted reader. -/
  | scripted (scanType : ScanType) (reader : BenchReader)
  /-- The driver of ARYGON readers behind new ports. -/
  | arygon (ports : List BenchPort)
  /-- The driver of a smart card service with new card readers, which may fail to list them. -/
  | pcsc (cards : List BenchCard) (listError : Option Pcsc.Scard)
  /-- A driver of readers that can do nothing. -/
  | bare (name : String)

namespace DriverSetup

/-- Puts the hardware on the bench and makes the driver of it. -/
def install (setup : DriverSetup) (b : Bench) : BenchDriver × Bench :=
  match setup with
  | .scripted scanType reader =>
    let (k, b) := b.addReader reader
    (.scripted reader.name scanType k, b)
  | .arygon ports =>
    let (ks, b) := Bench.addAll Bench.addPort b ports
    (.arygon ks, b)
  | .pcsc cards listError =>
    let (ks, b) := Bench.addAll Bench.addCard b cards
    (.pcsc ks listError, b)
  | .bare name => (.bare name, b)

end DriverSetup

/-- The hardware, the context, and the open devices. -/
structure Desk where
  bench : Bench := {}
  context : Context Bench Claimed := {}
  slots : List (String × Session (Device Claimed)) := []

namespace Desk

variable {ε α : Type}

/-- Runs an action of the bench. -/
def onBench (a : Act ε Bench α) : Act ε Desk α :=
  a.zoom Desk.bench fun b d => { d with bench := b }

/-- Runs an action of the context. -/
def onContext (a : Act ε (Context Bench Claimed) α) : Act ε Desk α :=
  a.zoom Desk.context fun c d => { d with context := c }

/-- Brings a driver and its hardware. -/
def register (setup : DriverSetup) : Act ε Desk Unit := do
  let (driver, bench) := setup.install (← get).bench
  modify fun d => { d with bench := bench }
  onContext (Context.register driver)

/-- Fills a slot, or empties it. -/
def setSlot (d : Desk) (slot : String) (s : Option (Session (Device Claimed))) : Desk :=
  { d with slots := s.toList.map (fun s => (slot, s)) ++ d.slots.filter fun p => p.1 != slot }

/-- Closes the device in a slot, if there is one. -/
def close (slot : String) : Act ε Desk Unit := do
  if let some s := (← get).slots.lookup slot then
    onBench (Context.closeDevice s.reader)
    modify fun d => d.setSlot slot none

/-- Opens a reader into a slot; the device that was there is closed after that. -/
def openReader (slot : String) (text? : Option String) : Op Desk (Device Claimed) := do
  let opened ← onBench ((← get).context.openReader text?)
  close slot
  modify fun d => d.setSlot slot (some { reader := opened })
  return opened

/-- The device in a slot, over the bench. -/
def session? (d : Desk) (slot : String) : Option (Session (Device (Bench × Claimed))) :=
  (d.slots.lookup slot).map fun s => s.map (Device.map fun c => (d.bench, c))

/-- Puts a device back into its slot, and the bench below it. -/
def putBack (d : Desk) (slot : String) (s : Session (Device (Bench × Claimed))) : Desk :=
  { d with bench := s.reader.backend.1 }.setSlot slot (some (s.map (Device.map Prod.snd)))

end Desk

end NearField.Simulated
