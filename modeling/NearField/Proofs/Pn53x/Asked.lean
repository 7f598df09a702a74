import NearField.Proofs.Noted
import NearField.Proofs.Pn53x.Polling

/-!
# What a chip is asked, and for how long

A request is a command together with the time that its reply may take.  A link that notes the
requests it is given (`Noted Request τ`) tells what an operation asks a chip.  One exchange is one
request, whatever comes of it (`asked_transceive`), and a selection is one at most, with the time
that the chip gives a selection (`asked_selectPassive`).  Selections that follow each other are all
given the same time, since none of them changes a setting (`asked_selecting`).
-/

namespace NearField.Pn53x

/-- A command that a chip is given, and how long its reply may take. -/
structure Request where
  command : Bytes
  timeout : Timeout
  deriving DecidableEq, Repr

variable {τ : Type} [ChipLink τ]

/-- A link that notes what it is asked. -/
instance : ChipLink (Noted Request τ) where
  send cmd t := Noted.noting ⟨cmd, t⟩ (ChipLink.send cmd t)
  receive capacity code t := Noted.passing (ChipLink.receive capacity code t)
  signal? n := ChipLink.signal? n.world
  raiseSignal n := { n with world := ChipLink.raiseSignal n.world }
  clock n := ChipLink.clock n.world
  abortCommand := Noted.passing ChipLink.abortCommand
  supportsPowerDown n := ChipLink.supportsPowerDown n.world
  close n := { n with world := ChipLink.close n.world }

/-- An exchange asks for one command, whatever becomes of it. -/
theorem notes_carry_request (code : UInt8) (params : Bytes) (t : Timeout) (n : Noted Request τ) :
    (carry code params t n).state.notes = n.notes ++ [⟨code :: params, t⟩] := by
  have hreceive : Act.Keeps Noted.notes
      (ChipLink.receive replyCapacity code t : Op (Noted Request τ) Bytes) := fun _ => rfl
  exact Act.keeps_after (fun _ => hreceive) n

namespace Chip

variable {m : Modulation} {c : Chip (Noted Request τ)}

omit [ChipLink τ] in
/-- What a chip was asked. -/
def asked (c : Chip (Noted Request τ)) : List Request := c.link.notes

/-- **An exchange is one request**, also if the link refuses it or the chip replies with a
failure. -/
theorem asked_transceive (code : UInt8) (params : Bytes) (t : Timeout)
    (c : Chip (Noted Request τ)) :
    (transceive (code :: params) t c).state.asked = c.asked ++ [⟨code :: params, t⟩] :=
  (congrArg Noted.notes (link_transceive code params t c)).trans
    (notes_carry_request code params t c.link)

theorem asked_command (code : UInt8) (params : Bytes) (c : Chip (Noted Request τ)) :
    (command (code :: params) c).state.asked =
      c.asked ++ [⟨code :: params, c.commandTimeout⟩] := by
  refine (Act.keeps_after (fun _ => Act.keeps_pure _) c).trans ?_
  rw [exchange, (Act.get_bind _ _).2, asked_transceive]

/-- The request that switches unbounded selection. -/
def switchRequest (enable : Bool) (t : Timeout) : Request := ⟨Command.rfRetries enable, t⟩

/-- The switch for unbounded selection is asked for with the usual timeout. -/
theorem asked_switch (enable : Bool) (c : Chip (Noted Request τ)) :
    (setBool .infiniteSelect enable c).state.asked =
      c.asked ++ [switchRequest enable c.commandTimeout] := by
  change ((do
    command (Command.rfRetries enable)
    modify fun c => { c with infiniteSelect := enable } :
      Op (Chip (Noted Request τ)) Unit) c).state.asked = _
  have hflag : Act.Keeps asked
      (modify fun c => { c with infiniteSelect := enable } : Op (Chip (Noted Request τ)) Unit) :=
    Act.keeps_modify fun _ => rfl
  exact (Act.keeps_after (fun _ => hflag) c).trans (asked_command _ _ c)

/-- The request that selects a target of a modulation; there is none if the family of chips knows
no such targets. -/
def selectRequest (t : Timeout) (m : Modulation) : List Request :=
  (selection m).map fun command => ⟨command, t⟩

/-- A selection that is supported asks for one command, for as long as the switch says. -/
theorem asked_selectPassive (m : Modulation) (c : Chip (Noted Request τ)) :
    (selectPassive m [] c).state.asked = c.asked ++ selectRequest c.selectionTimeout m := by
  cases hm : brty? m with
  | none =>
      rw [(fails_selectPassive hm c).2, selectRequest, selection, hm]
      exact (List.append_nil _).symm
  | some brty =>
      rw [asked, link_selectPassive hm, notes_carry_request, selectRequest, selection, hm]
      rfl

/-- **No setting changes** with a selection, however it ends. -/
theorem keeps_settings_selectPassive (m : Modulation) :
    Act.Keeps settings (selectPassive m [] : Op (Chip τ) (Option Target)) := by
  intro c
  cases hm : brty? m with
  | none => exact congrArg settings (fails_selectPassive hm c).2
  | some brty =>
      exact (view_selectPassive (fun _ _ => rfl) hm c).trans (keeps_transceive _ _ c)

/-- Selections leave the settings as they are. -/
theorem settings_selecting (ms : List Modulation) (c : Chip τ) :
    (selecting ms c).settings = c.settings := by
  induction ms generalizing c with
  | nil => rfl
  | cons m ms ih => exact (ih _).trans (keeps_settings_selectPassive m c)

/-- **Selections are asked for in order**, each once and all with the same time. -/
theorem asked_selecting (ms : List Modulation) (c : Chip (Noted Request τ)) :
    (selecting ms c).asked = c.asked ++ ms.flatMap (selectRequest c.selectionTimeout) := by
  induction ms generalizing c with
  | nil => exact (List.append_nil _).symm
  | cons m ms ih =>
      have htime : (selectPassive m [] c).state.selectionTimeout = c.selectionTimeout :=
        congrArg (selectionTimeout (τ := Unit)) (keeps_settings_selectPassive m c)
      have hrest : (selecting (m :: ms) c).asked = _ := ih (selectPassive m [] c).state
      rw [hrest, htime, asked_selectPassive, List.flatMap_cons, List.append_assoc]

end Chip

end NearField.Pn53x
