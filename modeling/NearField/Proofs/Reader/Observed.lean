import NearField.Proofs.Act
import NearField.Reader

/-!
# Observed readers

An `Observed σ` is a reader that hands every call on to a reader with state `σ`, and writes down
the switches that are set, the selections and the deselections, in order and with what came of
them.
-/

namespace NearField

/-- A call that is written down, and what came of it. -/
inductive Observation where
  | setBool (p : Property) (enable : Bool) (r : Except Error Unit)
  | select (m : Modulation) (data : Bytes) (r : Except Error (Option Target))
  | deselect (r : Except Error Unit)

/-- A reader and what was seen of its calls. -/
structure Observed (σ : Type) where
  reader : σ
  seen : List Observation := []

namespace Observed

variable {ε σ α : Type}

/-- Hands a call on. -/
def passing (a : Act ε σ α) : Act ε (Observed σ) α :=
  a.zoom Observed.reader fun r o => { o with reader := r }

/-- Hands a call on and writes it down. -/
def noting (note : Except Error α → Observation) (a : Op σ α) : Op (Observed σ) α := do
  let r ← (passing a).attempt
  modify fun o => { o with seen := o.seen ++ [note r] }
  Act.ofExcept r

instance [Reader σ] : Reader (Observed σ) where
  describe? o e := Reader.describe? o.reader e
  initiatorInit := passing Reader.initiatorInit
  secureElementInit := passing Reader.secureElementInit
  selectPassive m data := noting (.select m data) (Reader.selectPassive m data)
  pollTarget ms rounds period := passing (Reader.pollTarget ms rounds period)
  pollChecked ms rounds period := passing (Reader.pollChecked ms rounds period)
  selectDep mode rate initiator timeout := passing (Reader.selectDep mode rate initiator timeout)
  deselect := noting .deselect Reader.deselect
  transceiveBytes tx capacity timeout := passing (Reader.transceiveBytes tx capacity timeout)
  transceiveBits tx capacity := passing (Reader.transceiveBits tx capacity)
  transceiveBytesTimed tx capacity := passing (Reader.transceiveBytesTimed tx capacity)
  transceiveBitsTimed tx capacity := passing (Reader.transceiveBitsTimed tx capacity)
  targetIsPresent t := passing (Reader.targetIsPresent t)
  targetInit capacity timeout := (Reader.targetInit capacity timeout).zoom
    (fun s : Target × Observed σ => (s.1, s.2.reader)) fun r s => (r.1, { s.2 with reader := r.2 })
  targetSendBytes tx timeout := passing (Reader.targetSendBytes tx timeout)
  targetReceiveBytes capacity timeout := passing (Reader.targetReceiveBytes capacity timeout)
  targetSendBits tx := passing (Reader.targetSendBits tx)
  targetReceiveBits capacity := passing (Reader.targetReceiveBits capacity)
  setBool p enable := noting (.setBool p enable) (Reader.setBool p enable)
  setInt p value := passing (Reader.setInt p value)
  families mode := passing (Reader.families mode)
  baudRates mode f := passing (Reader.baudRates mode f)
  information := passing Reader.information
  signal? o := Reader.signal? o.reader
  raiseSignal o := { o with reader := Reader.raiseSignal o.reader }
  clock o := Reader.clock o.reader
  abortCommand := passing Reader.abortCommand
  idle := passing Reader.idle
  powerDown := passing Reader.powerDown
  close := Reader.close.zoom Observed.reader fun r o => { o with reader := r }

/-- A call that is written down ends as it does, and is seen last. -/
theorem noting_run (note : Except Error α → Observation) (a : Op σ α) (o : Observed σ) :
    (noting note a o).result = (a o.reader).result ∧
      (noting note a o).state =
        ⟨(a o.reader).state, o.seen ++ [note (a o.reader).result]⟩ := by
  unfold noting
  rw [(Act.attempt_bind _ _ _).1, (Act.attempt_bind _ _ _).2, (Act.modify_bind _ _ _).1,
    (Act.modify_bind _ _ _).2, Act.ofExcept_apply]
  exact ⟨rfl, rfl⟩

/-- A call that is handed on runs as it does without an observer. -/
theorem simulates_passing (a : Op σ α) :
    Act.Simulates (fun (o : Observed σ) s => o.reader = s) (passing a) a := by
  rintro o _ rfl
  exact ⟨rfl, rfl⟩

/-- So does one that is written down. -/
theorem simulates_noting (note : Except Error α → Observation) (a : Op σ α) :
    Act.Simulates (fun (o : Observed σ) s => o.reader = s) (noting note a) a := by
  rintro o _ rfl
  rw [(noting_run note a o).1, (noting_run note a o).2]
  exact ⟨rfl, rfl⟩

variable [Reader σ]

/-- A selection ends as it does, and is seen with what came of it. -/
theorem selectPassive_run (m : Modulation) (data : Bytes) (o : Observed σ) :
    (Reader.selectPassive m data o).result = (Reader.selectPassive m data o.reader).result ∧
      (Reader.selectPassive m data o).state = ⟨(Reader.selectPassive m data o.reader).state,
        o.seen ++ [.select m data (Reader.selectPassive m data o.reader).result]⟩ :=
  noting_run _ _ o

/-- Letting a target go ends as it does, and is seen with what came of it. -/
theorem deselect_run (o : Observed σ) :
    (Reader.deselect o).result = (Reader.deselect o.reader).result ∧
      (Reader.deselect o).state = ⟨(Reader.deselect o.reader).state,
        o.seen ++ [.deselect (Reader.deselect o.reader).result]⟩ :=
  noting_run _ _ o

/-- A switch is set as it is, and that is seen with what came of it. -/
theorem setBool_run (p : Property) (enable : Bool) (o : Observed σ) :
    (Reader.setBool p enable o).result = (Reader.setBool p enable o.reader).result ∧
      (Reader.setBool p enable o).state = ⟨(Reader.setBool p enable o.reader).state,
        o.seen ++ [.setBool p enable (Reader.setBool p enable o.reader).result]⟩ :=
  noting_run _ _ o

end Observed

end NearField
