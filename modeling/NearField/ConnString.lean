import NearField.Act

/-!
# Connection strings

A connection string names a reader: the driver's name, then parameters, all separated by
colons.  Parameters are either `key=value` pairs, which `parse` looks up and `build` writes, or
positional, which `decode` reads and `buildPositional` writes.
-/

namespace NearField

/-- A connection string is printable ASCII and shorter than this. -/
def ConnString.capacity : Nat := 1024

/-- Whether a character is printable ASCII. -/
def ConnString.isPrintable (c : Char) : Bool := 0x20 ≤ c.toNat && c.toNat ≤ 0x7E

/-- A short printable text. -/
structure ConnString where
  text : String
  short : text.utf8ByteSize < ConnString.capacity
  printable : text.toList.all ConnString.isPrintable = true
  deriving DecidableEq

namespace ConnString

variable {σ : Type}

instance : Repr ConnString := ⟨fun c _ => repr c.text⟩

/-- Why a text is not a connection string. -/
inductive Fault where
  | tooLong (size : Nat)
  | badCharacter
  deriving DecidableEq, Repr

/-- The wording of a fault. -/
def Fault.message : Fault → String
  | .tooLong size =>
    "Connection string too long (" ++ toString size ++ " >= " ++ toString capacity ++ ")"
  | .badCharacter => "Connection string contains invalid characters"

/-- Checks a text; its length comes first. -/
def ofString (s : String) : Except Fault ConnString :=
  if h : s.utf8ByteSize < capacity then
    if p : s.toList.all isPrintable = true then .ok ⟨s, h, p⟩ else .error .badCharacter
  else .error (.tooLong s.utf8ByteSize)

/-- Checks a text as part of an operation: a fault is logged. -/
def new (s : String) : Op σ ConnString := fun st =>
  match ofString s with
  | .ok c => ⟨.ok c, st, []⟩
  | .error f => ⟨.error .invalidArgument, st, [⟨.error, Log.generalTopic, f.message⟩]⟩

/-- The longest driver name considered when a driver is looked for. -/
def maxDriverName : Nat := 64

/-- The longest run of whole characters at the front that takes at most `room` bytes. -/
def cut (room : Nat) : List Char → List Char
  | [] => []
  | c :: cs => if c.utf8Size ≤ room then c :: cut (room - c.utf8Size) cs else []

/-- A string that starts with `usb` asks for any USB driver. -/
def isUsbRequest (c : ConnString) : Bool := "usb".toList.isPrefixOf c.text.toList

/-- Whether the driver of this name should try to open the string: its name stands at the
front, or the string asks for any USB driver and the name ends in `_usb`. -/
def matchesDriver (c : ConnString) (driver : String) : Bool :=
  let name := cut maxDriverName driver.toList
  name.isPrefixOf c.text.toList || (c.isUsbRequest && "_usb".toList.isSuffixOf name)

/-! ## Named parameters -/

/-- The longest value that `parse` returns is shorter than this. -/
def valueCapacity : Nat := 256

/-- What follows the first occurrence of a pattern. -/
def findAfter? (pattern : List Char) : List Char → Option (List Char)
  | [] => if pattern.isEmpty then some [] else none
  | c :: cs =>
    if pattern.isPrefixOf (c :: cs) then some ((c :: cs).drop pattern.length)
    else findAfter? pattern cs

/-- Why a parameter can not be read. -/
inductive ParameterFault where
  | wrongDriver
  | missing
  | tooLong (size : Nat)
  deriving DecidableEq, Repr

/-- The error for a parameter that can not be read. -/
def ParameterFault.toError : ParameterFault → Error
  | .tooLong _ => .bufferOverflow
  | _ => .invalidArgument

/-- The size of a text in bytes. -/
def byteSize (cs : List Char) : Nat := cs.foldr (fun c size => c.utf8Size + size) 0

/-- Drops one leading colon. -/
def dropColon : List Char → List Char
  | ':' :: cs => cs
  | cs => cs

/-- Looks up a parameter: the text has to start with `driver`; the value stands behind the
first `key=` and ends at a colon. -/
def parameter (text driver key : List Char) : Except ParameterFault (List Char) :=
  if !driver.isPrefixOf text then .error .wrongDriver else
  match findAfter? (key ++ ['=']) (dropColon (text.drop driver.length)) with
  | none => .error .missing
  | some rest =>
    let value := rest.takeWhile (· ≠ ':')
    if valueCapacity ≤ byteSize value then .error (.tooLong (byteSize value)) else .ok value

/-- The record of a parameter that was read, or of why it was not. -/
def parameterRecord (text driver key : String) : Except ParameterFault String → Log.Record
  | .ok value =>
    ⟨.debug, Log.commonTopic, "Extracted parameter '" ++ key ++ "'='" ++ value
      ++ "' from connstring"⟩
  | .error .wrongDriver =>
    ⟨.debug, Log.commonTopic, "Connstring '" ++ text ++ "' does not match prefix '" ++ driver
      ++ "'"⟩
  | .error .missing =>
    ⟨.debug, Log.commonTopic, "Parameter '" ++ key ++ "' not found in connstring '" ++ text ++ "'"⟩
  | .error (.tooLong size) =>
    ⟨.error, Log.commonTopic, "Parameter value too long (" ++ toString size ++ " >= "
      ++ toString valueCapacity ++ ")"⟩

/-- Looks up a parameter of a text and logs what it found. -/
def parse (text driver key : String) : Op σ String := fun s =>
  let found := (parameter text.toList driver.toList key.toList).map String.ofList
  ⟨found.mapError ParameterFault.toError, s, [parameterRecord text driver key found]⟩

/-- Refuses a text that does not fit a connection string. -/
def checkSize (s : String) : Op σ Unit :=
  if s.utf8ByteSize < capacity then pure ()
  else do
    Act.log .error Log.commonTopic ("Connection string buffer overflow (need "
      ++ toString s.utf8ByteSize ++ " bytes, have " ++ toString capacity ++ ")")
    throw .bufferOverflow

/-- Builds `driver:key=value`. -/
def build (driver key value : String) : Op σ ConnString := do
  let s := driver ++ ":" ++ key ++ "=" ++ value
  checkSize s
  Act.log .debug Log.commonTopic ("Built connection string: '" ++ s ++ "'")
  new s

/-! ## Positional parameters -/

/-- The text `driver:p₁:p₂:…`. -/
def positionalText (driver : String) (params : List String) : String :=
  params.foldl (fun s p => s ++ ":" ++ p) driver

/-- Builds `driver:p₁:p₂:…`, the form that scans report. -/
def buildPositional (driver : String) (params : List String) : Op σ ConnString := do
  let s := positionalText driver params
  checkSize s
  new s

/-- What a positional string says to one driver. -/
inductive Decoded where
  /-- Meant for another driver. -/
  | foreign
  /-- The driver alone. -/
  | driver
  /-- One parameter. -/
  | one (first : String)
  /-- Two parameters; further ones are not kept. -/
  | two (first second : String)
  deriving DecidableEq, Repr

namespace Decoded

/-- How many leading segments were recognised. -/
def level : Decoded → Nat
  | .foreign => 0
  | .driver => 1
  | .one _ => 2
  | .two .. => 3

/-- The first parameter. -/
def first? : Decoded → Option String
  | .one p | .two p _ => some p
  | _ => none

/-- The second parameter. -/
def second? : Decoded → Option String
  | .two _ q => some q
  | _ => none

/-- The wording of what was recognised. -/
def text : Decoded → String
  | .foreign => "level 0"
  | .driver => "level 1"
  | .one p => "level 2 [" ++ p ++ "]"
  | .two p q => "level 3 [" ++ p ++ ", " ++ q ++ "]"

end Decoded

/-- The parts of a text between colons. -/
def segments : List Char → List (List Char)
  | [] => [[]]
  | ':' :: cs => [] :: segments cs
  | c :: cs =>
    match segments cs with
    | [] => [[c]]
    | s :: rest => (c :: s) :: rest

/-- Reads a positional text for a driver or its bus; an empty segment ends the text. -/
def decode (text driver bus : String) : Decoded :=
  match ((segments text.toList).takeWhile (!·.isEmpty)).map String.ofList with
  | [] => .foreign
  | head :: params =>
    if head = driver ∨ head = bus then
      match params with
      | [] => .driver
      | [p] => .one p
      | p :: q :: _ => .two p q
    else .foreign

end ConnString

end NearField
