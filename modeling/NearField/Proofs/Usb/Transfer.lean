import NearField.Proofs.Act
import NearField.Simulated.Pipe

/-!
# Replies from a bulk pipe

A reply of a dongle is one transfer.  When a transfer is queued and some time is left, the
first slice of waiting takes it (`yields_readTransfer`), so receiving is decoding that transfer
(`yields_receive`).
-/

namespace NearField.Usb.Link
open Simulated

variable {α : Type} {u u' : Link Pipe} {transfer : Bytes} {reads : List Bytes}

/-- The link with exactly these transfers to come from its pipe. -/
def holding (u : Link Pipe) (reads : List Bytes) : Link Pipe :=
  { u with pipe := { u.pipe with hardware := { u.pipe.hardware with reads := reads } } }

/-- A queued transfer that fits the buffer is taken by one read. -/
theorem yields_read (h : transfer.length ≤ transferSize) (micros : Nat) :
    (BulkPipe.read transferSize micros).Yields (u.holding (transfer :: reads)).pipe transfer
      (u.holding reads).pipe := by
  refine Act.yields_zoom.mpr ⟨(u.holding reads).pipe.hardware, ?_, rfl⟩
  refine Act.yields_bind.mpr ⟨_, _, Act.yields_get.mpr ⟨rfl, rfl⟩, ?_⟩
  refine Act.yields_bind.mpr ⟨(), _, Act.yields_set.mpr rfl, ?_⟩
  exact Act.yields_ite.mpr (.inr ⟨Nat.not_lt.mpr h, Act.yields_pure.mpr ⟨rfl, rfl⟩⟩)

/-- With time left, a queued transfer is taken by the first slice. -/
theorem yields_readSlices (h : transfer.length ≤ transferSize) {slices : Nat} {left : Option Nat}
    (hslices : slices ≠ 0) (hleft : left ≠ some 0) :
    (readSlices slices left).Yields (u.holding (transfer :: reads)).pipe transfer
      (u.holding reads).pipe := by
  obtain ⟨n, rfl⟩ := Nat.exists_eq_succ_of_ne_zero hslices
  simp only [readSlices, hleft, if_false]
  refine Act.yields_bind.mpr ⟨_, _, Act.yields_get.mpr ⟨rfl, rfl⟩, Act.yields_bind.mpr
    ⟨_, _, Act.yields_attempt.mpr (yields_read h _), ?_⟩⟩
  exact ⟨rfl, rfl⟩

theorem duration?_ne_zero {t : Timeout} (ht : t ≠ .millis 0) : t.duration? ≠ some 0 := by
  cases t with
  | default => decide
  | infinite => decide
  | millis n =>
      intro h
      obtain rfl : n = 0 := UInt32.toNat_inj.mp (Option.some.inj h)
      exact ht rfl

theorem yields_readTransfer (h : transfer.length ≤ transferSize) {t : Timeout}
    (ht : t ≠ .millis 0) :
    (readTransfer t).Yields (u.holding (transfer :: reads)) transfer (u.holding reads) := by
  have hms := duration?_ne_zero ht
  refine Act.yields_zoom.mpr ⟨(u.holding reads).pipe, ?_, rfl⟩
  cases hd : t.duration? with
  | none => exact yields_readSlices h (by simp [endlessSlices]) (by simp)
  | some ms =>
      have hne : ms * 1000 ≠ 0 :=
        Nat.mul_ne_zero (fun h => hms (by rw [hd, h])) (by decide)
      exact yields_readSlices h (Nat.succ_ne_zero _) fun h => hne (Option.some.inj h)

theorem yields_decodeOp {σ : Type} {frame params : Bytes} {command : UInt8} {s s' : σ} :
    (Frame.decodeOp frame command).Yields s params s' ↔
      Frame.decode frame command = .ok params ∧ s = s' := by
  unfold Frame.decodeOp Act.Yields
  cases Frame.decode frame command <;> simp

theorem not_yields_fail {e : Error} {message : String} {x : α} :
    ¬ (fail e message : Op (Link Pipe) α).Yields u x u' := by
  intro h
  obtain ⟨-, l₁, -, h⟩ := Act.yields_bind.mp h
  exact absurd h Act.not_yields_throw

/-- **The receiver of a dongle** succeeds exactly when the transfer decodes to parameters that
fit, and takes that transfer. -/
theorem yields_receive (h : transfer.length ≤ transferSize) {capacity : Nat} {command : UInt8}
    {t : Timeout} {params : Bytes} (ht : t ≠ .millis 0) :
    (receive capacity command t).Yields (u.holding (transfer :: reads)) params u' ↔
      Frame.decode transfer command = .ok params ∧ params.length ≤ capacity ∧
        u.holding reads = u' := by
  have hread : (readTransfer t).Yields (u.holding (transfer :: reads)) transfer
      (u.holding reads) := yields_readTransfer h ht
  unfold receive
  refine ⟨fun hr => ?_, ?_⟩
  · -- the transfer is there, so all that is left is to decode it and to see if it fits
    obtain ⟨r, u₁, hattempt, hrest⟩ := Act.yields_bind.mp hr
    obtain ⟨hresult, hstate⟩ := Act.yields_attempt.mp hattempt
    obtain rfl : r = .ok transfer := hresult.symm.trans hread.1
    obtain rfl : u.holding reads = u₁ := hread.2.symm.trans hstate
    obtain ⟨ps, u₂, hop, hcheck⟩ := Act.yields_bind.mp hrest
    obtain ⟨hdecode, rfl⟩ := yields_decodeOp.mp hop
    rcases Act.yields_ite.mp hcheck with ⟨-, hfail⟩ | ⟨hfits, hpure⟩
    · obtain ⟨-, u₃, hfail, -⟩ := Act.yields_bind.mp hfail
      exact absurd hfail not_yields_fail
    · obtain ⟨rfl, rfl⟩ := Act.yields_pure.mp hpure
      exact ⟨hdecode, Nat.not_lt.mp hfits, rfl⟩
  · rintro ⟨hdecode, hfits, rfl⟩
    refine Act.yields_bind.mpr ⟨_, _, Act.yields_attempt.mpr hread, ?_⟩
    refine Act.yields_bind.mpr ⟨params, _, yields_decodeOp.mpr ⟨hdecode, rfl⟩, ?_⟩
    exact Act.yields_ite.mpr (.inr ⟨Nat.not_lt.mpr hfits, Act.yields_pure.mpr ⟨rfl, rfl⟩⟩)

/-! ## Between slices -/

/-- Looks at the signal after a silent slice, and goes on unless it is raised. -/
def poll {σ : Type} (rest : Watched σ → Op (Watched σ) Bytes) : Op (Watched σ) Bytes := do
  let w ← get
  set { w with signal := w.signal.take.2 }
  if w.signal.take.1 then throw .operationAborted
  rest w

theorem poll_apply {σ : Type} (rest : Watched σ → Op (Watched σ) Bytes) (w : Watched σ) :
    poll rest w = if w.signal.raised then ⟨.error .operationAborted, ⟨w.hardware, ⟨false⟩⟩, []⟩
      else rest w w := by
  obtain ⟨p, ⟨_ | _⟩⟩ := w <;> rfl

end NearField.Usb.Link
