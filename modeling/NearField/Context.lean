import NearField.Device
import NearField.Registry

/-!
# Contexts

A context knows the drivers, the readers that a user declared, and which scans are allowed.  It
lists readers and opens them; what it opened does not depend on it any more.
-/

namespace NearField

/-- A reader that a user declared. -/
structure UserDevice where
  name : String
  connString : ConnString
  /-- Whether it is listed only when it can be opened. -/
  optional : Bool := false
  deriving DecidableEq, Repr

/-- Drivers, declared readers and policies. -/
structure Context (ω δ : Type) where
  registry : Registry ω δ := .builtin
  autoscan : Bool := true
  intrusiveScan : Bool := false
  userDevices : List UserDevice := []

namespace Context

variable {ω δ : Type}

/-- A device name is shorter than this many bytes. -/
def nameCapacity : Nat := 256

/-- Logs a debug record about devices. -/
def debug {ε σ : Type} (message : String) : Act ε σ Unit :=
  Act.log .debug Log.generalTopic message

/-- Registers a further driver. -/
def register {ε : Type} (d : Driver ω δ) : Act ε (Context ω δ) Unit :=
  (Registry.register d).zoom Context.registry fun r c => { c with registry := r }

/-- Declares a reader by its connection string. -/
def declare (name text : String) (optional : Bool) : Op (Context ω δ) Unit := do
  let c ← ConnString.new text
  modify fun ctx => { ctx with userDevices := ctx.userDevices ++ [⟨name, c, optional⟩] }

/-- Lets all drivers go. -/
def exit {ε : Type} : Act ε (Context ω δ) Unit := do
  debug ("Releasing " ++ toString (← get).registry.size ++ " driver(s)")
  modify fun c => { c with registry := c.registry.clear }

/-- Closes a device in its world. -/
def closeDevice {ε : Type} [Reader (ω × δ)] (d : Device δ) : Act ε ω Unit := do
  let _ ← Act.around (fun w => d.map fun b => (w, b)) (·.backend.1) Device.close

/-- Claims a reader through the first driver that matches.  Behind a string that asks for any
USB driver a failing driver is passed over; else a failure ends the search. -/
def claimWith (c : ConnString) : List (Driver ω δ) → Op ω (Device δ)
  | [] => do
    debug ("No driver available to handle \"" ++ c.text ++ "\".")
    throw .noSuchDevice
  | d :: ds => do
    if !c.matchesDriver d.name then claimWith c ds else
    match ← (d.claim c).attempt with
    | .ok claimed => return ⟨claimed.name, c, d.name, claimed.handle, none, false⟩
    | .error e =>
      if c.isUsbRequest then claimWith c ds else
      debug ("Unable to open \"" ++ c.text ++ "\".")
      throw e

/-- Gives a device the name that the user declared for its connection string. -/
def rename (ctx : Context ω δ) (d : Device δ) : Device δ :=
  match ctx.userDevices.find? fun u => u.connString.text == d.connString.text with
  | some u => { d with name := u.name }
  | none => d

variable [Reader (ω × δ)]

/-- Names a claimed device; one whose name is too long is closed again. -/
def finish (ctx : Context ω δ) (claimed : Device δ) : Op ω (Device δ) := do
  let d := ctx.rename claimed
  if nameCapacity ≤ d.name.utf8ByteSize then
    Act.log .error Log.generalTopic "Failed to copy device name"
    closeDevice d
    throw .bufferOverflow
  debug ("\"" ++ d.name ++ "\" (" ++ d.connString.text ++ ") has been claimed.")
  return d

/-- Opens the reader that a connection string names. -/
def openNamed (ctx : Context ω δ) (c : ConnString) : Op ω (Device δ) := do
  finish ctx (← claimWith c ctx.registry.drivers)

/-- Whether a declared reader can be opened; it is closed again.  What opening it logs is
dropped. -/
def isAvailable (ctx : Context ω δ) (u : UserDevice) : Act Empty ω Bool := do
  match ← ((openNamed ctx u.connString).filtered .off).attempt with
  | .error _ => return false
  | .ok d =>
    closeDevice d
    debug ("User device " ++ u.name ++ " found")
    return true

/-- The declared readers, some at most; optional ones that can not be opened are left out. -/
def declared (ctx : Context ω δ) : Nat → List UserDevice → Act Empty ω (List ConnString)
  | 0, _ | _, [] => pure []
  | room + 1, u :: us => do
    let listed ← if u.optional then isAvailable ctx u else pure true
    if listed then return u.connString :: (← declared ctx room us)
    else declared ctx (room + 1) us

omit [Reader (ω × δ)] in
/-- Whether a driver may scan. -/
def mayScan (ctx : Context ω δ) (d : Driver ω δ) : Bool :=
  d.scanType = .notIntrusive || ctx.intrusiveScan

omit [Reader (ω × δ)] in
/-- The readers that scans find, some at most. -/
def scanned (ctx : Context ω δ) : Nat → List (Driver ω δ) → Act Empty ω (List ConnString)
  | 0, _ | _, [] => pure []
  | room + 1, d :: ds => do
    if !ctx.mayScan d then scanned ctx (room + 1) ds else
    let found ← d.scan (room + 1)
    debug (toString found.length ++ " device(s) found using " ++ d.name ++ " driver")
    let kept := found.take (room + 1)
    return kept ++ (← scanned ctx (room + 1 - kept.length) ds)

/-- Lists some readers at most: the declared ones first, then what scans find if they are
allowed. -/
def list (ctx : Context ω δ) (max : Nat) : Act Empty ω (List ConnString) := do
  let found ← declared ctx max ctx.userDevices
  if max ≤ found.length then return found
  if !ctx.autoscan then
    if ctx.userDevices.isEmpty then
      Act.log .info Log.generalTopic
        "Warning: user must specify device(s) manually when autoscan is disabled"
    return found
  return found ++ (← scanned ctx (max - found.length) ctx.registry.drivers)

/-- Opens the reader that a text names, or else the first one that is listed. -/
def openReader (ctx : Context ω δ) (text? : Option String) : Op ω (Device δ) := do
  match text? with
  | some s => openNamed ctx (← ConnString.new s)
  | none =>
    match ← (list ctx 1).attempt with
    | .ok (c :: _) => openNamed ctx c
    | _ =>
      debug "No device found to open"
      throw .noSuchDevice

end Context

end NearField
