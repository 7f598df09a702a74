import NearField.Device.Reader
import NearField.Proofs.Checked

/-!
# Calls of a device

What the user of a device can ask of it, as syntax: a `Call α` is an operation with its
arguments, and `α` is what it answers.  `Call.run` is its entry in the table of the device, or
the operation that only a device has, and `Device.after` is the device that a sequence of calls
leaves, however each of them ended.  `yields_dispatch` and `yields_setBool`, with their
counterparts for failures, say what a call does to the device that hands it on.

A call whose numbers are checked is handed on as well.  Unless it stops out of range it ends as the
call does whose numbers are not checked (`agrees_dispatchChecked`).
-/

namespace NearField.Device

/-- An operation of a device with its arguments. -/
inductive Call : Type → Type where
  | setBool (p : Property) (enable : Bool) : Call Unit
  | setInt (p : Property) (value : Int) : Call Unit
  | families (mode : Mode) : Call (List Family)
  | baudRates (mode : Mode) (f : Family) : Call (List BaudRate)
  | validate (mode : Mode) (m : Modulation) : Call Unit
  | initiatorInit : Call Unit
  | secureElementInit : Call Unit
  | selectPassive (m : Modulation) (data : Bytes) : Call (Option Target)
  | listPassive (m : Modulation) (max : Nat) : Call (List Target)
  | pollTarget (ms : List Modulation) (rounds period : UInt8) : Call (Option Target)
  | selectDep (mode : DepMode) (rate : BaudRate) (initiator : Option DepInfo)
      (timeout : Timeout) : Call (Option Target)
  | pollDep (mode : DepMode) (rate : BaudRate) (initiator : Option DepInfo)
      (timeout : Timeout) : Call (Option Target)
  | deselect : Call Unit
  | transceiveBytes (tx : Bytes) (capacity : Nat) (timeout : Timeout) : Call Bytes
  | transceiveBits (tx : BitFrame) (capacity : Nat) : Call BitFrame
  | transceiveBytesTimed (tx : Bytes) (capacity : Nat) : Call (Bytes × Nat)
  | transceiveBitsTimed (tx : BitFrame) (capacity : Nat) : Call (BitFrame × Nat)
  | targetIsPresent (t : Option Target) : Call Unit
  | targetInit (target : Target) (capacity : Nat) (timeout : Timeout) : Call Bytes
  | targetSendBytes (tx : Bytes) (timeout : Timeout) : Call Nat
  | targetReceiveBytes (capacity : Nat) (timeout : Timeout) : Call Bytes
  | targetSendBits (tx : BitFrame) : Call Nat
  | targetReceiveBits (capacity : Nat) : Call BitFrame
  | information : Call String
  | abortCommand : Call Unit
  | idle : Call Unit
  | powerDown : Call Unit

variable {σ α : Type} [Reader σ]

/-- Runs a call.  What the played target learns on the way belongs to the caller. -/
def Call.run : Call α → Op (Device σ) α
  | .setBool p enable => Reader.setBool p enable
  | .setInt p value => Reader.setInt p value
  | .families mode => Reader.families mode
  | .baudRates mode f => Reader.baudRates mode f
  | .validate mode m => Device.validate mode m
  | .initiatorInit => Reader.initiatorInit
  | .secureElementInit => Reader.secureElementInit
  | .selectPassive m data => Reader.selectPassive m data
  | .listPassive m max => Device.listPassive m max
  | .pollTarget ms rounds period => Reader.pollTarget ms rounds period
  | .selectDep mode rate initiator timeout => Reader.selectDep mode rate initiator timeout
  | .pollDep mode rate initiator timeout => Device.pollDep mode rate initiator timeout
  | .deselect => Reader.deselect
  | .transceiveBytes tx capacity timeout => Reader.transceiveBytes tx capacity timeout
  | .transceiveBits tx capacity => Reader.transceiveBits tx capacity
  | .transceiveBytesTimed tx capacity => Reader.transceiveBytesTimed tx capacity
  | .transceiveBitsTimed tx capacity => Reader.transceiveBitsTimed tx capacity
  | .targetIsPresent t => Reader.targetIsPresent t
  | .targetInit target capacity timeout =>
    (Reader.targetInit capacity timeout).zoom (fun d => (target, d)) fun s _ => s.2
  | .targetSendBytes tx timeout => Reader.targetSendBytes tx timeout
  | .targetReceiveBytes capacity timeout => Reader.targetReceiveBytes capacity timeout
  | .targetSendBits tx => Reader.targetSendBits tx
  | .targetReceiveBits capacity => Reader.targetReceiveBits capacity
  | .information => Reader.information
  | .abortCommand => Reader.abortCommand
  | .idle => Reader.idle
  | .powerDown => Reader.powerDown

/-- The device that calls leave, made in order. -/
def after : List (Sigma Call) → Device σ → Device σ
  | [], d => d
  | ⟨_, c⟩ :: calls, d => after calls (c.run d).state

/-! ## What handing on does to a device -/

section Dispatch

variable {δ : Type} {a : Op δ α} {d d' : Device δ} {x : α} {e : Error}

theorem dispatch_run (a : Op δ α) (d : Device δ) :
    (dispatch a d).result = (a d.backend).result ∧
      (dispatch a d).state = { d with
        backend := (a d.backend).state, lastError? := failure? (a d.backend).result } := by
  unfold dispatch
  rw [(Act.attempt_bind _ _ _).1, (Act.attempt_bind _ _ _).2, (Act.modify_bind _ _ _).1,
    (Act.modify_bind _ _ _).2, Act.ofExcept_apply]
  exact ⟨rfl, rfl⟩

theorem yields_dispatch :
    (dispatch a).Yields d x d' ↔
      ∃ b, a.Yields d.backend x b ∧ { d with backend := b, lastError? := none } = d' := by
  rw [Act.Yields, (dispatch_run a d).1, (dispatch_run a d).2]
  refine ⟨?_, ?_⟩
  · rintro ⟨hx, rfl⟩
    exact ⟨_, ⟨hx, rfl⟩, by rw [hx, failure?]⟩
  · rintro ⟨b, ⟨hx, rfl⟩, rfl⟩
    exact ⟨hx, by rw [hx, failure?]⟩

theorem fails_dispatch :
    (dispatch a).Fails d e d' ↔
      ∃ b, a.Fails d.backend e b ∧ { d with backend := b, lastError? := some e } = d' := by
  rw [Act.Fails, (dispatch_run a d).1, (dispatch_run a d).2]
  refine ⟨?_, ?_⟩
  · rintro ⟨he, rfl⟩
    exact ⟨_, ⟨he, rfl⟩, by rw [he, failure?]⟩
  · rintro ⟨b, ⟨he, rfl⟩, rfl⟩
    exact ⟨he, by rw [he, failure?]⟩

/-- A checked call that is handed on ends as the call does, unless it stops. -/
theorem agrees_dispatchChecked {checked : Checked δ α} (h : checked.Agrees a d.backend) :
    (dispatchChecked checked).Agrees (dispatch a) d := by
  intro hno
  rw [(dispatch_run a d).1, (dispatch_run a d).2]
  unfold dispatchChecked at hno ⊢
  rcases Checked.stops_or_ends checked d.backend with hstops | ⟨r, hends⟩
  · have hfails : (checked.zoom Device.backend fun b d => { d with backend := b }).Fails d
        .outOfRange { d with backend := (checked d.backend).state } := ⟨hstops, rfl⟩
    exact absurd ((Checked.fails_attempt hfails).bind _).1 hno
  · obtain ⟨hresult, hstate⟩ := h (hends ▸ Checked.mapError_inRange r)
    obtain rfl : r = (a d.backend).result := Checked.mapError_inj (hends.symm.trans hresult)
    have hattempt := Checked.yields_attempt
      (a := checked.zoom Device.backend fun b d => { d with backend := b }) (s := d) hends
    rw [(hattempt.bind _).1, (hattempt.bind _).2, (Act.modify_bind _ _ _).1,
      (Act.modify_bind _ _ _).2, Act.ofExcept_apply]
    exact ⟨rfl, by rw [Act.zoom_apply, hstate]⟩

theorem not_yields_fail : ¬ (fail e : Op (Device δ) α).Yields d x d' := by
  intro h
  obtain ⟨b, h, -⟩ := yields_dispatch.mp h
  exact absurd h Act.not_yields_throw

/-- A failure without a call of the reader leaves the reader as it is. -/
theorem fails_fail (e : Error) (d : Device δ) :
    (fail e : Op (Device δ) α).Fails d e { d with lastError? := some e } :=
  fails_dispatch.mpr ⟨d.backend, ⟨rfl, rfl⟩, rfl⟩

variable [Reader δ] {p : Property} {enable : Bool}

/-- A switch that is set is set at the reader; only unbounded selection is kept track of. -/
theorem yields_setBool {u : Unit} :
    (setBool p enable).Yields d u d' ↔
      ∃ b, (Reader.setBool p enable).Yields d.backend u b ∧
        { d with
          backend := b, lastError? := none,
          infiniteSelect := if p = .infiniteSelect then enable else d.infiniteSelect } = d' := by
  unfold setBool
  refine ⟨fun h => ?_, ?_⟩
  · obtain ⟨_, d₁, hlog, h⟩ := Act.yields_bind.mp h
    obtain rfl := Act.yields_log.mp hlog
    obtain ⟨_, d₂, hset, h⟩ := Act.yields_bind.mp h
    obtain ⟨b, hb, rfl⟩ := yields_dispatch.mp hset
    refine ⟨b, hb, ?_⟩
    rcases Act.yields_ite.mp h with ⟨hp, h⟩ | ⟨hp, h⟩
    · rw [if_pos hp]
      exact Act.yields_modify.mp h
    · rw [if_neg hp]
      exact (Act.yields_pure.mp h).2
  · rintro ⟨b, hb, rfl⟩
    refine Act.yields_bind.mpr ⟨(), _, Act.yields_log.mpr rfl, Act.yields_bind.mpr
      ⟨u, _, yields_dispatch.mpr ⟨b, hb, rfl⟩, Act.yields_ite.mpr ?_⟩⟩
    by_cases hp : p = .infiniteSelect
    · exact .inl ⟨hp, Act.yields_modify.mpr (by rw [if_pos hp])⟩
    · exact .inr ⟨hp, Act.yields_pure.mpr ⟨rfl, by rw [if_neg hp]⟩⟩

/-- A switch that can not be set stays as it is kept track of. -/
theorem fails_setBool :
    (setBool p enable).Fails d e d' ↔
      ∃ b, (Reader.setBool p enable).Fails d.backend e b ∧
        { d with backend := b, lastError? := some e } = d' := by
  unfold setBool
  refine ⟨fun h => ?_, fun h => ?_⟩
  · rcases Act.fails_bind.mp h with hlog | ⟨_, d₁, hlog, h⟩
    · exact absurd hlog Act.not_fails_log
    obtain rfl := Act.yields_log.mp hlog
    rcases Act.fails_bind.mp h with hset | ⟨-, d₂, -, h⟩
    · exact fails_dispatch.mp hset
    · by_cases hp : p = .infiniteSelect
      · rw [if_pos hp] at h
        exact absurd h Act.not_fails_modify
      · rw [if_neg hp] at h
        exact absurd h Act.not_fails_pure
  · exact Act.fails_bind.mpr (.inr ⟨(), d, Act.yields_log.mpr rfl, Act.fails_bind.mpr
      (.inl (fails_dispatch.mpr h))⟩)

/-- A modulation passes when the reader lists its family, and its speed for that family. -/
theorem yields_validate {mode : Mode} {m : Modulation} {u : Unit} :
    (validate mode m).Yields d u d' ↔
      ∃ fs d₁, (families mode).Yields d fs d₁ ∧ m.family ∈ fs ∧
        ∃ rs, (baudRates mode m.family).Yields d₁ rs d' ∧ m.baudRate ∈ rs := by
  refine ⟨fun h => ?_, ?_⟩
  · obtain ⟨fs, d₁, hfs, h⟩ := Act.yields_bind.mp h
    rcases Act.yields_ite.mp h with ⟨-, h⟩ | ⟨hf, h⟩
    · obtain ⟨_, d₂, -, h⟩ := Act.yields_bind.mp h
      obtain ⟨_, d₃, h, -⟩ := Act.yields_bind.mp h
      exact absurd h not_yields_fail
    · obtain ⟨rs, d₂, hrs, h⟩ := Act.yields_bind.mp h
      rcases Act.yields_ite.mp h with ⟨-, h⟩ | ⟨hr, h⟩
      · obtain ⟨_, d₃, -, h⟩ := Act.yields_bind.mp h
        exact absurd h not_yields_fail
      · obtain ⟨-, rfl⟩ := Act.yields_pure.mp h
        exact ⟨fs, d₁, hfs, by simpa using hf, rs, hrs, by simpa using hr⟩
  · rintro ⟨fs, d₁, hfs, hf, rs, hrs, hr⟩
    refine Act.yields_bind.mpr ⟨fs, d₁, hfs, Act.yields_ite.mpr (.inr ⟨by simpa using hf, ?_⟩)⟩
    refine Act.yields_bind.mpr ⟨rs, d', hrs, Act.yields_ite.mpr (.inr ⟨by simpa using hr, ?_⟩)⟩
    exact Act.yields_pure.mpr ⟨rfl, rfl⟩

end Dispatch

/-- A device that was just made around a reader. -/
def plain {δ : Type} (backend : δ) : Device δ where
  name := "reader"
  connString := ⟨"scripted:0", by decide, by decide⟩
  driver := "scripted"
  backend := backend

end NearField.Device
