import NearField.Proofs.Checked
import NearField.Proofs.Pn53x.Call

/-!
# Links whose accesses are checked

A link hands the chip layer a number of bytes in a buffer that has room for as many as were asked
for.  `Guards τ` are ways to send and to receive over a link that check the accesses they take
themselves, and `Guarded g` is the link that sends and receives that way and checks the bytes it
hands up against the room as well.  It is intact as long as every access was in range.

Guards are sound (`Guards.Sound`) if they run as the link does and the link reports no more bytes
than there is room for.  Then the chip layer can not tell the guarded link from the link, and
leaves it intact (`interchange_over`).  So `Guarded.plain`, which runs an operation and stops
behind it where the link has broken, passes (`Guarded.passes_plain`).
-/

namespace NearField.Pn53x

open Checked

variable {τ α : Type}

/-- Ways to send and to receive over a link that check their accesses. -/
structure Guards (τ : Type) where
  send : Bytes → Timeout → Checked τ Unit
  receive : Nat → UInt8 → Timeout → Checked τ Bytes

/-- Asks for an echo with given ways to send and to receive.  The bytes of the answer are the first
of a buffer that has the room asked for. -/
def echoChecked (send : Bytes → Timeout → Checked τ Unit)
    (receive : Nat → UInt8 → Timeout → Checked τ Bytes) : Checked τ Unit := do
  send Command.echo checkTimeout
  let reply ← receive checkCapacity diagnose checkTimeout
  front checkCapacity reply.length
  if reply ≠ Command.echoReply then
    Act.log .error Log.chipTopic ("Communication test failed: " ++ Hex.spaced reply)
    throw (.error .io)

/-- An echo is looked for in what was asked for, which is all that a receiver gives. -/
theorem passes_echoChecked {send : Bytes → Timeout → Checked τ Unit}
    {receive : Nat → UInt8 → Timeout → Checked τ Bytes} {send' : Bytes → Timeout → Op τ Unit}
    {receive' : Nat → UInt8 → Timeout → Op τ Bytes}
    (hsend : ∀ data t, Passes Eq (send data t) (send' data t))
    (hreceive : ∀ capacity code t, Passes Eq (receive capacity code t) (receive' capacity code t))
    (hfits : ∀ capacity code t,
      Act.Gives (fun reply : Bytes => reply.length ≤ capacity) (receive' capacity code t)) :
    Passes Eq (echoChecked send receive) (echoTest send' receive') := by
  refine (hsend _ _).bind fun _ => (hreceive _ _ _).bind_gives (hfits _ _ _) fun reply hroom => ?_
  rw [front_eq hroom, pure_bind]
  exact .ite ((passes_log _ _ _).bind fun _ => passes_throw _) (passes_pure _)

/-- The guards of a link that takes no accesses of its own. -/
def Guards.bare (τ : Type) [ChipLink τ] : Guards τ where
  send data t := lift (ChipLink.send data t)
  receive capacity code t := lift (ChipLink.receive capacity code t)

/-- A link that reports no more bytes than it is given room for. -/
def Bounded (τ : Type) [ChipLink τ] : Prop :=
  ∀ (capacity : Nat) (code : UInt8) (t : Timeout),
    Act.Gives (fun reply : Bytes => reply.length ≤ capacity)
      (ChipLink.receive capacity code t : Op τ Bytes)

/-- Guards run as their link does, which reports no more bytes than it is given room for. -/
structure Guards.Sound [ChipLink τ] (g : Guards τ) : Prop where
  send (data : Bytes) (t : Timeout) : Passes Eq (g.send data t) (ChipLink.send data t)
  receive (capacity : Nat) (code : UInt8) (t : Timeout) :
    Passes Eq (g.receive capacity code t) (ChipLink.receive capacity code t)
  fits : Bounded τ

/-- A link without accesses of its own is sound once it keeps to the room that it is given. -/
theorem sound_bare [ChipLink τ] (h : Bounded τ) : (Guards.bare τ).Sound where
  send data t := passes_refl (ChipLink.send data t)
  receive capacity code t := passes_refl (ChipLink.receive capacity code t)
  fits := h

/-- A link that is used through guards, and whether every access was in range. -/
structure Guarded (g : Guards τ) where
  link : τ
  intact : Bool := true

namespace Guarded

variable {g : Guards τ}

/-- Runs a checked program of the link.  An access out of range is not forgotten, whatever becomes
of the failure. -/
def settle (a : Checked τ α) : Op (Guarded g) α := fun s =>
  let o := a s.link
  match o.result with
  | .ok x => ⟨.ok x, { s with link := o.state }, o.log⟩
  | .error (.error e) => ⟨.error e, { s with link := o.state }, o.log⟩
  | .error .outOfRange => ⟨.error .io, ⟨o.state, false⟩, o.log⟩

/-- Runs an action of the link itself. -/
def passing (a : Op τ α) : Op (Guarded g) α := a.zoom Guarded.link fun l s => { s with link := l }

/-- The bytes of a reply are the first of a buffer that has room for the capacity. -/
instance [ChipLink τ] (g : Guards τ) : ChipLink (Guarded g) where
  send data t := settle (g.send data t)
  receive capacity code t := settle do
    let reply ← g.receive capacity code t
    front capacity reply.length
    return reply
  signal? s := ChipLink.signal? s.link
  raiseSignal s := { s with link := ChipLink.raiseSignal s.link }
  clock s := ChipLink.clock s.link
  abortCommand := passing ChipLink.abortCommand
  supportsPowerDown s := ChipLink.supportsPowerDown s.link
  close s := { s with link := ChipLink.close s.link }

/-- The guarded link is this one, and every access was in range. -/
def Over (s : Guarded g) (l : τ) : Prop := s = ⟨l, true⟩

/-- A checked program that passes leaves the link intact. -/
theorem simulates_settle {a : Checked τ α} {b : Op τ α} (h : Passes Eq a b) :
    Act.Simulates Over (settle a : Op (Guarded g) α) b := by
  rintro _ l rfl
  obtain ⟨hresult, hstate⟩ := h l l rfl
  rw [(lift_run b l).1] at hresult
  rw [(lift_run b l).2] at hstate
  unfold settle Over
  cases hb : (b l).result <;> simp [hresult, hb, hstate]

variable [ChipLink τ]

theorem simulates_send (h : g.Sound) (data : Bytes) (t : Timeout) :
    Act.Simulates Over (ChipLink.send data t : Op (Guarded g) Unit) (ChipLink.send data t) :=
  simulates_settle (h.send data t)

/-- A reply fits the buffer that it is handed up in, so taking its bytes is in range as well. -/
theorem simulates_receive (h : g.Sound) (capacity : Nat) (code : UInt8) (t : Timeout) :
    Act.Simulates Over (ChipLink.receive capacity code t : Op (Guarded g) Bytes)
      (ChipLink.receive capacity code t) := by
  rw [← bind_pure (ChipLink.receive capacity code t : Op τ Bytes)]
  refine simulates_settle ?_
  refine (h.receive capacity code t).bind_gives (h.fits capacity code t) fun reply hroom => ?_
  rw [front_eq hroom, pure_bind]
  exact passes_pure reply

/-- **The chip layer uses a guarded link like the link itself**, and breaks none. -/
theorem interchange_over (h : g.Sound) :
    Interchange (Chip.UsualWithin fun _ => True) (fun _ => True) (Over (g := g)) where
  carry code _ t _ :=
    (simulates_send h _ t).bind fun _ => simulates_receive h _ code t
  usual _ := trivial
  endless := trivial

/-! ## Operations over a guarded link -/

/-- Runs an operation that takes no accesses but those of its link, and stops if it broke that. -/
def plain (a : Op (Chip (Guarded g)) α) : Checked (Chip (Guarded g)) α := do
  let r ← a.attempt
  Act.require (← get).link.intact .outOfRange
  Act.ofExcept (r.mapError .error)

/-- The chip is the other one over a guarded link, and every access was in range. -/
def Around : Chip (Guarded g) → Chip τ → Prop := Paired (Chip.UsualWithin fun _ => True) Over

omit [ChipLink τ] in
/-- An operation without accesses of its own passes, as its link stays intact. -/
theorem passes_plain {a : Op (Chip (Guarded g)) α} {b : Op (Chip τ) α}
    (h : Act.Simulates Around a b) : Passes Around (plain a) b := by
  intro c c' hc
  obtain ⟨hresult, hstate⟩ := h c c' hc
  have hintact : (a c).state.link.intact = true := congrArg Guarded.intact hstate.link
  rw [plain, (Act.attempt_bind _ _ _).1, (Act.attempt_bind _ _ _).2, (Act.get_bind _ _).1,
    (Act.get_bind _ _).2, hintact]
  change (Act.ofExcept _ (a c).state).result = _ ∧ Around (Act.ofExcept _ (a c).state).state _
  rw [Act.ofExcept_apply, hresult]
  exact ⟨rfl, hstate⟩

end Guarded

end NearField.Pn53x
