import NearField.Named

/-!
# Log records

Operations report what they do as records with a level and a topic.  A filter decides which
levels pass; `QuietLog` is a filter together with the guards that silence it for a time.
-/

namespace NearField.Log

/-- How severe a record is. -/
inductive Level where
  | error
  | warn
  | info
  | debug
  | trace
  deriving DecidableEq, Repr

/-- The most verbose level that passes; `off` lets nothing pass. -/
inductive Filter where
  | off
  | upTo (level : Level)
  deriving DecidableEq, Repr

/-- The verbosity of a level, starting at one. -/
def Level.verbosity : Level → Nat
  | .error => 1
  | .warn => 2
  | .info => 3
  | .debug => 4
  | .trace => 5

/-- The name of a level. -/
def Level.name : Level → String
  | .error => "ERROR"
  | .warn => "WARN"
  | .info => "INFO"
  | .debug => "DEBUG"
  | .trace => "TRACE"

/-- The name of a filter. -/
def Filter.name : Filter → String
  | .off => "OFF"
  | .upTo level => level.name

instance : Named Filter :=
  ⟨[.off, .upTo .error, .upTo .warn, .upTo .info, .upTo .debug, .upTo .trace], Filter.name⟩

/-- Whether a record of this level passes. -/
def Filter.admits : Filter → Level → Bool
  | .off, _ => false
  | .upTo bound, level => level.verbosity ≤ bound.verbosity

/-- One record: its level, the part of the library it is about, and its text. -/
structure Record where
  level : Level
  topic : String
  message : String
  deriving DecidableEq, Repr

/-- The topics that records are filed under. -/
def generalTopic : String := "libnfc.general"

@[inherit_doc generalTopic] def commonTopic : String := "libnfc.common"

@[inherit_doc generalTopic] def chipTopic : String := "libnfc.chip.pn53x"

@[inherit_doc generalTopic] def arygonTopic : String := "libnfc.driver.arygon"

@[inherit_doc generalTopic] def uartTopic : String := "libnfc.bus.uart"

@[inherit_doc generalTopic] def usbTopic : String := "libnfc.driver.pn53x_usb"

@[inherit_doc generalTopic] def pcscTopic : String := "libnfc.driver.pcsc"

/-- A filter and the guards that silence it, oldest first.  Each guard keeps the filter it
found; a released guard leaves an empty place. -/
structure QuietLog where
  filter : Filter := .upTo .trace
  guards : List (Option Filter) := []
  deriving DecidableEq, Repr

namespace QuietLog

/-- Sets the filter. -/
def setFilter (q : QuietLog) (f : Filter) : QuietLog := { q with filter := f }

/-- Adds a guard: the filter is off until it is released. -/
def silence (q : QuietLog) : QuietLog := ⟨.off, q.guards ++ [some q.filter]⟩

/-- Releases the guard at place `i`: the filter is again what that guard found.  A guard is
released once. -/
def release (q : QuietLog) (i : Nat) : QuietLog :=
  match q.guards[i]? with
  | some (some found) => ⟨found, q.guards.set i none⟩
  | _ => q

end QuietLog

end NearField.Log
