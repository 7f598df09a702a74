import NearField.Reader

/-!
# Readers inside a larger state

A state may hold a reader of one of several kinds beside other things.  `InnerReader` names the
reader that is there and the way to put its new state back, and `Reader.ofInner` makes the
whole state a reader.
-/

namespace NearField

/-- A reader inside a state of type `σ`. -/
structure InnerReader (σ : Type) where
  /-- The kind of the reader. -/
  Inner : Type
  [reader : Reader Inner]
  /-- The reader. -/
  inner : Inner
  /-- The whole with the reader replaced. -/
  put : Inner → σ

namespace InnerReader

variable {ε σ α : Type}

/-- Runs an operation of whichever reader is there. -/
def run (view : σ → InnerReader σ) (a : (τ : Type) → [Reader τ] → Act ε τ α) : Act ε σ α := fun s =>
  let p := view s
  let o := @a p.Inner p.reader p.inner
  ⟨o.result, p.put o.state, o.log⟩

/-- Runs an operation of whichever reader is there beside the target that it plays. -/
def runPlaying (view : σ → InnerReader σ) (a : (τ : Type) → [Reader τ] → Act ε (Target × τ) α) :
    Act ε (Target × σ) α := fun s =>
  let p := view s.2
  let o := @a p.Inner p.reader (s.1, p.inner)
  ⟨o.result, (o.state.1, p.put o.state.2), o.log⟩

/-- Looks at whichever reader is there. -/
def look (view : σ → InnerReader σ) (f : (τ : Type) → [Reader τ] → τ → α) (s : σ) : α :=
  @f (view s).Inner (view s).reader (view s).inner

end InnerReader

open InnerReader in
/-- The state as a reader: each operation is that of the reader inside. -/
@[reducible] def Reader.ofInner {σ : Type} (view : σ → InnerReader σ) : Reader σ where
  describe? s e := look view (fun _ _ r => Reader.describe? r e) s
  initiatorInit := run view fun _ => Reader.initiatorInit
  secureElementInit := run view fun _ => Reader.secureElementInit
  selectPassive m data := run view fun _ => Reader.selectPassive m data
  pollTarget ms rounds period := run view fun _ => Reader.pollTarget ms rounds period
  pollChecked ms rounds period := run view fun _ => Reader.pollChecked ms rounds period
  selectDep mode rate initiator timeout :=
    run view fun _ => Reader.selectDep mode rate initiator timeout
  deselect := run view fun _ => Reader.deselect
  transceiveBytes tx capacity timeout :=
    run view fun _ => Reader.transceiveBytes tx capacity timeout
  transceiveBits tx capacity := run view fun _ => Reader.transceiveBits tx capacity
  transceiveBytesTimed tx capacity := run view fun _ => Reader.transceiveBytesTimed tx capacity
  transceiveBitsTimed tx capacity := run view fun _ => Reader.transceiveBitsTimed tx capacity
  targetIsPresent t := run view fun _ => Reader.targetIsPresent t
  targetInit capacity timeout :=
    runPlaying view fun _ => Reader.targetInit capacity timeout
  targetSendBytes tx timeout := run view fun _ => Reader.targetSendBytes tx timeout
  targetReceiveBytes capacity timeout :=
    run view fun _ => Reader.targetReceiveBytes capacity timeout
  targetSendBits tx := run view fun _ => Reader.targetSendBits tx
  targetReceiveBits capacity := run view fun _ => Reader.targetReceiveBits capacity
  setBool p enable := run view fun _ => Reader.setBool p enable
  setInt p value := run view fun _ => Reader.setInt p value
  families mode := run view fun _ => Reader.families mode
  baudRates mode f := run view fun _ => Reader.baudRates mode f
  information := run view fun _ => Reader.information
  signal? := look view fun _ => Reader.signal?
  raiseSignal s := (view s).put (@Reader.raiseSignal _ (view s).reader (view s).inner)
  clock := look view fun _ => Reader.clock
  abortCommand := run view fun _ => Reader.abortCommand
  idle := run view fun _ => Reader.idle
  powerDown := run view fun _ => Reader.powerDown
  close := run view fun _ => Reader.close

end NearField
