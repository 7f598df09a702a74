import NearField.Reader

/-!
# Scripted readers

A reader whose findings are written down beforehand.  It records what was asked of it.
-/

namespace NearField.Simulated

/-- A reader in memory: its tables, the results to come, and what it saw. -/
structure ScriptedReader where
  families : List Family := [.iso14443a, .felica, .iso14443b, .jewel]
  baudRates : List BaudRate := [.kbps106, .kbps212, .kbps424]
  /-- The switches that were set, in order. -/
  properties : List (Property × Bool) := []
  /-- A switch that can not be set. -/
  failingProperty : Option Property := none
  /-- The selections that were made, in order. -/
  selects : List (Modulation × Bytes) := []
  selectResults : List (Except Error (Option Target)) := []
  depResults : List (Except Error (Option Target)) := []
  transceiveResults : List (Except Error Bytes) := []
  depCalls : Nat := 0
  deselects : Nat := 0
  initiatorInits : Nat := 0
  targetInits : Nat := 0
  /-- The reader's words for any error. -/
  errorText : Option String := none
  closed : Nat := 0

namespace ScriptedReader

/-- The first bytes that an emulated target receives: a request for an answer to select. -/
def firstCommand : Bytes := [0xE0, 0x50]

/-- Records a selection and takes its result; an unplanned one finds nothing. -/
def selectPassive (m : Modulation) (data : Bytes) : Op ScriptedReader (Option Target) := do
  let r ← get
  set { r with selects := r.selects ++ [(m, data)], selectResults := r.selectResults.drop 1 }
  Act.ofExcept (r.selectResults.headD (.ok none))

/-- Counts a peer selection and takes its result; an unplanned one times out. -/
def selectDep : Op ScriptedReader (Option Target) := do
  let r ← get
  set { r with depCalls := r.depCalls + 1, depResults := r.depResults.drop 1 }
  Act.ofExcept (r.depResults.headD (.error .timeout))

/-- Takes the result of an exchange; an unplanned one times out. -/
def transceiveBytes : Op ScriptedReader Bytes := do
  let r ← get
  set { r with transceiveResults := r.transceiveResults.drop 1 }
  Act.ofExcept (r.transceiveResults.headD (.error .timeout))

/-- Records a switch, unless it can not be set. -/
def setBool (p : Property) (enable : Bool) : Op ScriptedReader Unit := do
  let r ← get
  if r.failingProperty = some p then throw .io
  set { r with properties := r.properties ++ [(p, enable)] }

/-- Counts an emulation; the first command is always the same. -/
def targetInit : Op (Target × ScriptedReader) Bytes := do
  modify fun s => (s.1, { s.2 with targetInits := s.2.targetInits + 1 })
  return firstCommand

instance : Reader ScriptedReader where
  describe? r _ := r.errorText
  initiatorInit := modify fun r => { r with initiatorInits := r.initiatorInits + 1 }
  selectPassive := selectPassive
  selectDep _ _ _ _ := selectDep
  deselect := modify fun r => { r with deselects := r.deselects + 1 }
  transceiveBytes _ _ _ := transceiveBytes
  targetInit _ _ := targetInit
  setBool := setBool
  families _ := do return (← get).families
  baudRates _ _ := do return (← get).baudRates
  information := pure "scripted device\n"
  close := modify fun r => { r with closed := r.closed + 1 }

/-- Forgets the lists of what was asked; the counts stay. -/
def forget (r : ScriptedReader) : ScriptedReader := { r with properties := [], selects := [] }

end ScriptedReader

end NearField.Simulated
