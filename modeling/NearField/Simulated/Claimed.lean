import NearField.Arygon.Driver
import NearField.Pcsc.Driver
import NearField.Pn53x.Reader
import NearField.Reader.Inner
import NearField.Simulated.Bench

/-!
# Drivers over the bench

The handles of readers that drivers claim on the bench, and the drivers themselves: those of
real readers over simulated wires, one whose readers are scripted, and one whose readers can do
nothing.
-/

namespace NearField.Simulated

/-- The handle of a claimed reader. -/
inductive Claimed where
  | bare
  | chip (c : Pn53x.Chip (Arygon.Link PortKey))
  | card (c : Pcsc.Connection CardKey)
  | scripted (k : ReaderKey)

namespace Claimed

/-- The reader that a handle leads to on the bench. -/
def inner : Bench × Claimed → InnerReader (Bench × Claimed)
  | (b, .bare) => ⟨BareReader, {}, fun _ => (b, .bare)⟩
  | (b, .chip c) =>
    { Inner := Pn53x.Chip (Arygon.Link (Bench × PortKey))
      inner := c.mapLink (Arygon.Link.map fun k => (b, k))
      put := fun c => (Arygon.worldOf c.link, .chip (c.mapLink Arygon.handleOf)) }
  | (b, .card c) =>
    { Inner := Pcsc.Connection (Bench × CardKey)
      inner := c.mapChannel fun k => (b, k)
      put := fun c => (c.channel.1, .card (c.mapChannel Prod.snd)) }
  | (b, .scripted k) =>
    { Inner := ScriptedReader
      inner := (b.reader k).reader
      put := fun r => (b.setReader k { b.reader k with reader := r }, .scripted k) }

instance : Reader (Bench × Claimed) := Reader.ofInner inner

end Claimed

/-- A driver on the bench. -/
abbrev BenchDriver : Type := Driver Bench Claimed

namespace BenchDriver

/-- The driver of ARYGON readers behind some ports. -/
def arygon (ports : List PortKey) : BenchDriver :=
  (Arygon.driver (Bench.portProvider ports)).map .chip

/-- The driver of a smart card service with some readers. -/
def pcsc (cards : List CardKey) (listError : Option Pcsc.Scard) : BenchDriver :=
  (Pcsc.driver (Bench.cardService cards listError)).map .card

/-- A driver whose readers can do nothing and are called like the driver. -/
def bare (name : String) : BenchDriver where
  name := name
  claim _ := return ⟨name, .bare⟩

/-- Keeps the texts that are connection strings. -/
def connStrings {ε σ : Type} : List String → Act ε σ (List ConnString)
  | [] => pure []
  | s :: rest => do
    let c ← (ConnString.new s).attempt
    return c.toOption.toList ++ (← connStrings rest)

/-- Records what is claimed, and hands out the scripted reader unless claiming fails. -/
def claimScripted (name : String) (k : ReaderKey) (c : ConnString) : Op Bench (Claim Claimed) := do
  modify fun b => b.setReader k { b.reader k with claimed := (b.reader k).claimed ++ [c.text] }
  match ((← get).reader k).failing with
  | some e => throw e
  | none => return ⟨name ++ " reader", .scripted k⟩

/-- A driver of a scripted reader. -/
def scripted (name : String) (scanType : ScanType) (k : ReaderKey) : BenchDriver where
  name := name
  scanType := scanType
  scan max := do connStrings (((← get).reader k).reports.take max)
  claim := claimScripted name k

end BenchDriver

/-- What a port replies when an ARYGON reader with a chip is claimed behind it: no error, the
reader's firmware `V0.4.1`, and that of the chip. -/
def arygonReplies : List Bytes :=
  [Arygon.noError,
    [0x46, 0x46, 0x30, 0x30, 0x30, 0x30, 0x30, 0x36, 0x56, 0x30, 0x2E, 0x34, 0x2E, 0x31, 0x0D,
      0x0A],
    Frame.ack ++ Frame.encodeReply Pn53x.getFirmwareVersion [0x32, 0x01, 0x06, 0x07]]

end NearField.Simulated
