import NearField.Proofs.Pn53x.Call
import NearField.Proofs.Pn53x.Heard

/-!
# A chip whose link is noted

Noting what crosses a link is of no account for what is carried over it (`interchange_noted`).  So
a run over a link that is noted leaves the host with what it knows after the run over the link
itself (`paired_after`).
-/

namespace NearField.Pn53x

variable {τ : Type} [ChipLink τ]

/-- What is sent is noted, and sent all the same. -/
theorem simulates_send (cmd : Bytes) (t : Timeout) :
    Act.Simulates Noted.Around (ChipLink.send cmd t : Op (Noted Crossing τ) Unit)
      (ChipLink.send cmd t : Op τ Unit) :=
  Noted.simulates_noting _ _

/-- What is received is noted, and received all the same. -/
theorem simulates_receive (capacity : Nat) (code : UInt8) (t : Timeout) :
    Act.Simulates Noted.Around (ChipLink.receive capacity code t : Op (Noted Crossing τ) Bytes)
      (ChipLink.receive capacity code t : Op τ Bytes) :=
  Noted.simulates_recording _ _

theorem simulates_checkCommunication :
    Act.Simulates Noted.Around (checkCommunication : Op (Noted Crossing τ) Unit)
      (checkCommunication : Op τ Unit) := by
  refine (simulates_send _ _).bind fun _ => (simulates_receive _ _ _).bind fun reply => ?_
  exact .ite ((Act.simulates_log _ _ _).bind fun _ => Act.simulates_throw _) (Act.simulates_pure _)

namespace Chip

/-- Both chips know the same, and the link of the second is the one that the first one's notes are
about. -/
abbrev Same (c : Chip (Noted Crossing τ)) (c' : Chip τ) : Prop :=
  Paired (UsualWithin fun _ => True) Noted.Around c c'

variable {c : Chip (Noted Crossing τ)} {c' : Chip τ}

/-- Notes are of no account for what is carried. -/
theorem interchange_noted : Interchange (UsualWithin fun _ => True) (fun _ => True)
    (Noted.Around : Noted Crossing τ → τ → Prop) where
  carry _ _ _ _ := (simulates_send _ _).bind fun _ => simulates_receive _ _ _
  usual _ := trivial
  endless := trivial

omit [ChipLink τ] in
/-- A change of the link that is the same below the notes. -/
theorem Same.mapLink {f : Noted Crossing τ → Noted Crossing τ} {g : τ → τ} (h : Same c c')
    (hfg : ∀ n, (f n).world = g n.world) : Same (c.mapLink f) (c'.mapLink g) :=
  ⟨h.host, h.known, (hfg c.link).trans (congrArg g h.link)⟩

/-- Whether a link can be powered down does not depend on its notes. -/
theorem simulates_powerDown : Act.Simulates Same (powerDown : Op (Chip (Noted Crossing τ)) Unit)
    (powerDown : Op (Chip τ) Unit) := by
  refine .get_bind fun c c' h => ?_
  have hallowed : ChipLink.supportsPowerDown c.link = ChipLink.supportsPowerDown c'.link :=
    congrArg ChipLink.supportsPowerDown h.link
  rw [hallowed]
  refine (Act.simulates_require _ _).bind fun _ => ?_
  refine (simulates_command interchange_noted _).bind fun _ => ?_
  exact simulates_modify fun _ _ _ h => ⟨rfl, h.known, h.link⟩

/-- An operation leaves the host with the same knowledge, with notes and without. -/
theorem paired_run (op : Operation) (h : Same c c') : Same (op.run c) (op.run c') := by
  cases op with
  | call call => exact (simulates_run interchange_noted call.2 (fun _ _ => trivial) c c' h).2
  | checkCommunication => exact (simulates_onLink simulates_checkCommunication c c' h).2
  | powerDown => exact (simulates_powerDown c c' h).2
  | abortCommand => exact (simulates_onLink (Noted.simulates_passing _) c c' h).2
  | raiseSignal => exact h.mapLink fun _ => rfl
  | close =>
      have hidle : Same (idle c).state (idle c').state :=
        (simulates_idle interchange_noted c c' h).2
      have hclosed := hidle.mapLink (f := ChipLink.close) (g := ChipLink.close) fun _ => rfl
      change Same (close c).state (close c').state
      rw [close_state, close_state]
      exact hclosed

/-- **A run over a link that is noted leaves what a run over the link itself leaves.** -/
theorem paired_after (ops : List Operation) (h : Same c c') :
    Same (after ops c) (after ops c') := by
  induction ops generalizing c c' with
  | nil => exact h
  | cons op ops ih => exact ih (paired_run op h)

end Chip

end NearField.Pn53x
