import NearField.Pn53x.Initiator

/-!
# The chip as target

The chip plays a tag or a peer device: it is told what to claim to be, and reports the first
command of the initiator.
-/

namespace NearField.Pn53x.Chip

variable {τ : Type} [ChipLink τ]

/-- What the chip claims to be: the modes it plays, the parameters of a Classic tag and of a
FeliCa tag, and the identifier and general bytes of a peer. -/
structure Disguise where
  modes : UInt8
  mifare : Vector UInt8 6 := .replicate 6 0
  felica : Vector UInt8 18 := .replicate 18 0
  nfcid3 : Vector UInt8 10 := .replicate 10 0
  general : Bytes := []

/-- The disguise as a tag of type A; the three bytes after the first of its identifier are
shown. -/
def Disguise.ofIso14443a (a : Iso14443aInfo) : Disguise :=
  let uid := if 4 ≤ a.uid.length then a.uid.drop 1 else [0, 0, 0]
  { modes := if a.sak &&& 0x20 ≠ 0 then 0x04 else 0x01
    mifare := #v[a.atqa[0], a.atqa[1], uid.getD 0 0, uid.getD 1 0, uid.getD 2 0, a.sak] }

/-- The disguise as a FeliCa tag; without a system code any is claimed. -/
def Disguise.ofFelica (f : FelicaInfo) : Disguise :=
  { modes := 0x01
    felica := f.id ++ f.pad ++ f.sysCode.getD #v[0xFF, 0xFF] }

/-- The disguise as a peer. -/
def Disguise.ofDep (d : DepInfo) : Disguise :=
  { modes := 0x02, nfcid3 := d.nfcid3, general := d.generalBytes }

/-- The command that puts a disguise on; all members but one take a count of historical bytes
at the end. -/
def Disguise.command (d : Disguise) (kind : ChipKind) : Bytes :=
  [tgInitAsTarget, d.modes] ++ d.mifare.toList ++ d.felica.toList ++ d.nfcid3.toList
    ++ UInt8.ofNat d.general.length :: d.general ++ if kind ≠ .pn531 then [0x00] else []

omit [ChipLink τ] in
/-- The disguise for a target. -/
def disguise (t : Target) : Op (Chip τ) Disguise := do
  match t.info with
  | .iso14443a a => return .ofIso14443a a
  | .felica f => return .ofFelica f
  | .dep d =>
    checkGeneralBytes d.generalBytes
    return .ofDep d
  | _ => throw .deviceNotSupported

/-- The speed that an activation byte reports. -/
def activatedRate (b : UInt8) : BaudRate :=
  match (b >>> 4) &&& 0x07 with
  | 0x01 => .kbps212
  | 0x02 => .kbps424
  | _ => .kbps106

/-- Runs an action of the chip beside the target it plays. -/
def besideTarget {α : Type} (a : Op (Chip τ) α) : Op (Target × Chip τ) α :=
  a.zoom (·.2) fun c s => (s.1, c)

/-- Plays a target until the first command; the target learns its speed even if the command
does not fit. -/
def targetInit (capacity : Nat) (timeout : Timeout) : Op (Target × Chip τ) Bytes := do
  let (t, c) ← get
  let d ← besideTarget (disguise t)
  besideTarget (modify fun c => { c with role := .target })
  match ← besideTarget (transceive (d.command c.kind) timeout) with
  | [] => throw .io
  | activated :: first =>
    modify fun s => ({ s.1 with baudRate := activatedRate activated }, s.2)
    besideTarget (fit capacity first)

/-- Answers the initiator; the count is that of the bytes given. -/
def targetSendBytes (tx : Bytes) (timeout : Timeout) : Op (Chip τ) Nat := do
  let _ ← transceive (tgSetData :: tx) timeout
  return tx.length

/-- Waits for a command of the initiator. -/
def targetReceiveBytes (capacity : Nat) (timeout : Timeout) : Op (Chip τ) Bytes := do
  let reply ← transceive [tgGetData] timeout
  fit capacity (reply.drop 1)

end NearField.Pn53x.Chip
