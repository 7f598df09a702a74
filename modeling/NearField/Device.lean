import NearField.ConnString
import NearField.Reader
import NearField.Text.Quoted

/-!
# Devices

A device is a claimed reader as its user holds it.  Every call is handed to the reader behind
it, and how it ended is remembered.  The device also remembers whether selection is unbounded,
for the operations that switch it for a time.
-/

namespace NearField

/-- A reader in use, with what is known about it. -/
structure Device (δ : Type) where
  name : String
  connString : ConnString
  driver : String
  backend : δ
  /-- How the last call failed, if it did. -/
  lastError? : Option Error := none
  /-- Whether selection waits for a target without end, as far as it was asked for. -/
  infiniteSelect : Bool := false

namespace Device

variable {δ δ' α : Type}

/-- Exchanges the reader behind a device. -/
def map (f : δ → δ') (d : Device δ) : Device δ' := { d with backend := f d.backend }

/-- The failure of a result. -/
def failure? : Except Error α → Option Error
  | .ok _ => none
  | .error e => some e

/-- Hands a call to the reader and remembers how it ended. -/
def dispatch (a : Op δ α) : Op (Device δ) α := do
  let r ← (a.zoom Device.backend fun b d => { d with backend := b }).attempt
  modify fun d => { d with lastError? := failure? r }
  Act.ofExcept r

/-- Hands a checked call to the reader and remembers how it ended, unless it stopped out of
range. -/
def dispatchChecked (a : Checked δ α) : Checked (Device δ) α := do
  let r ← Checked.attempt (a.zoom Device.backend fun b d => { d with backend := b })
  modify fun d => { d with lastError? := failure? r }
  Act.ofExcept (r.mapError .error)

/-- Fails without a call of the reader; the failure is remembered all the same. -/
def fail (e : Error) : Op (Device δ) α := dispatch (throw e)

/-- Logs a debug record about devices. -/
def debug (message : String) : Op (Device δ) Unit := Act.log .debug Log.generalTopic message

/-- The description of a device. -/
def description (d : Device δ) : String :=
  "Device \x7b name: " ++ Text.quoted d.name ++ ", connstring: ConnString("
    ++ Text.quoted d.connString.text ++ "), driver: " ++ Text.quoted d.driver ++ ", last_error: "
    ++ (match d.lastError? with
      | none => "None"
      | some e => "Some(" ++ e.name ++ ")")
    ++ " \x7d"

variable [Reader δ]

/-- The text for how the last call ended: the reader's own words if it has some. -/
def errorText (d : Device δ) : String :=
  match d.lastError? with
  | none => Error.messageForCode 0
  | some e => (Reader.describe? d.backend e).getD (Error.messageForCode e.code)

/-- The word for the position of a switch. -/
def switchWord (enable : Bool) : String := if enable then "True" else "False"

/-- Turns a switch on or off; unbounded selection is remembered when that succeeds. -/
def setBool (p : Property) (enable : Bool) : Op (Device δ) Unit := do
  debug ("set_property_bool " ++ p.text ++ " " ++ switchWord enable)
  dispatch (Reader.setBool p enable)
  if p = .infiniteSelect then
    modify fun d => { d with infiniteSelect := enable }

/-- Sets a number. -/
def setInt (p : Property) (value : Int) : Op (Device δ) Unit := do
  debug ("set_property_int " ++ p.text ++ " " ++ toString value)
  dispatch (Reader.setInt p value)

/-- Releases the reader. -/
def close : Act Empty (Device δ) Unit := do
  Act.log .debug Log.generalTopic ("Closing \"" ++ (← get).name ++ "\"")
  Reader.close.zoom Device.backend fun b d => { d with backend := b }

end Device

end NearField
