import NearField.Proofs.Arygon.Steps
import NearField.Proofs.Pn53x.Call
import NearField.Simulated.Line

/-!
# Waits without end on a serial line

A wait on a serial line that has no deadline and is not given the abort signal can not be ended
by anybody but the chip.  The serial link gives the signal only to its wait for the first bytes of
a reply; the wait for the acknowledgement of a command, and those for the rest of a reply, have
the timeout of the command and nothing else to end them.

So such a wait comes with every command that goes out without a deadline, and with no other
(`endless_read_iff`).  The chip layer sends such commands while selection is unbounded, which it
is on a new chip (`endless_read_select`).

`Overheard σ` is a port that notes its reads, and `Posting σ` a link over it that notes the
timeouts of the commands that go out.
-/

namespace NearField

namespace Arygon

/-- A read that a port was asked for. -/
structure Read where
  count : Nat
  timeout : Timeout
  watched : Bool
  deriving DecidableEq, Repr

/-- Nobody but the chip ends the read. -/
def Read.Endless (r : Read) : Prop := r.timeout = .infinite ∧ r.watched = false

instance (r : Read) : Decidable r.Endless := inferInstanceAs (Decidable (_ ∧ _))

/-- A port with the reads that it was asked for, and the number of frames that it took. -/
structure Overheard (σ : Type) where
  port : σ
  reads : List Read := []
  frames : Nat := 0

namespace Overheard

variable {σ α : Type}

/-- Runs an action of the port itself. -/
def passing (a : Op σ α) : Op (Overheard σ) α :=
  a.zoom Overheard.port fun p o => { o with port := p }

/-- Runs an action of the port itself with the signal. -/
def watching (a : Op (Watched σ) α) : Op (Watched (Overheard σ)) α :=
  a.zoom (Watched.map Overheard.port) fun v w => ⟨{ w.hardware with port := v.hardware }, v.signal⟩

/-- Notes a read. -/
def note (r : Read) (w : Watched (Overheard σ)) : Watched (Overheard σ) :=
  { w with hardware := { w.hardware with reads := w.hardware.reads ++ [r] } }

instance [SerialPort σ] : SerialPort (Overheard σ) where
  setSpeed bauds := passing (SerialPort.setSpeed bauds)
  flush wait := passing (SerialPort.flush wait)
  send bytes t := do
    passing (SerialPort.send bytes t)
    modify fun o => { o with frames := o.frames + 1 }
  receive n t watched := do
    modify (note ⟨n, t, watched⟩)
    watching (SerialPort.receive n t watched)
  close o := { o with port := SerialPort.close o.port }
  clock o := SerialPort.clock o.port

end Overheard

namespace Link

variable {σ α β : Type}

/-- The reads that the port of a link was asked for. -/
def reads (l : Link (Overheard σ)) : List Read := l.line.hardware.reads

/-- The frames that the port of a link took. -/
def frames (l : Link (Overheard σ)) : Nat := l.line.hardware.frames

/-- The port was asked for a read that nobody but the chip ends. -/
def Stuck (l : Link (Overheard σ)) : Prop := ∃ r ∈ l.reads, r.Endless

/-- No read was asked for and no frame taken between two states. -/
structure Still (l l' : Link (Overheard σ)) : Prop where
  reads : l'.reads = l.reads
  frames : l'.frames = l.frames

/-- Reads and frames may have come to those there were. -/
structure Grows (l l' : Link (Overheard σ)) : Prop where
  reads : l.reads <+: l'.reads
  frames : l.frames ≤ l'.frames

theorem Still.trans {l l' l'' : Link (Overheard σ)} (h : Still l l') (h' : Still l' l'') :
    Still l l'' :=
  ⟨h'.reads.trans h.reads, h'.frames.trans h.frames⟩

instance : IsPreorder (Link (Overheard σ)) Still where
  refl _ := ⟨rfl, rfl⟩
  trans _ _ _ := Still.trans

instance : IsPreorder (Link (Overheard σ)) Grows where
  refl _ := ⟨List.prefix_refl _, Nat.le_refl _⟩
  trans _ _ _ h h' := ⟨h.reads.trans h'.reads, Nat.le_trans h.frames h'.frames⟩

theorem Grows.stuck {l l' : Link (Overheard σ)} (h : Grows l l') (hl : l.Stuck) : l'.Stuck := by
  obtain ⟨r, hr, hendless⟩ := hl
  exact ⟨r, h.reads.subset hr, hendless⟩

variable [SerialPort σ] {t : Timeout} {l l₀ : Link (Overheard σ)}

/-! ## Calls of the port -/

theorem reads_watching (n : Nat) (t : Timeout) (watched : Bool) (l : Link (Overheard σ)) :
    (Link.watching (SerialPort.receive n t watched) l).state.reads = l.reads ++ [⟨n, t, watched⟩] :=
  rfl

theorem still_flush (l : Link (Overheard σ)) : Still l (onPort (SerialPort.flush false) l).state :=
  ⟨rfl, rfl⟩

/-- A frame that is taken is counted, and one that is not leaves everything as it was. -/
theorem send_port (bytes : Bytes) (t : Timeout) (l : Link (Overheard σ)) :
    let o := onPort (SerialPort.send bytes t) l
    (∃ e, o.result = .error e ∧ Still l o.state) ∨
      o.result = .ok () ∧ o.state.reads = l.reads ∧ o.state.frames = l.frames + 1 := by
  let inner : Op (Overheard σ) Unit := Overheard.passing (SerialPort.send bytes t)
  let counted (_ : Unit) : Op (Overheard σ) PUnit :=
    modify fun o => { o with frames := o.frames + 1 }
  change let o := onPort (inner >>= counted) l
    (∃ e, o.result = .error e ∧ Still l o.state) ∨
      o.result = .ok () ∧ o.state.reads = l.reads ∧ o.state.frames = l.frames + 1
  rcases inner.yields_or_fails l.line.hardware with ⟨u, h⟩ | ⟨e, h⟩
  · obtain ⟨hresult, hstate⟩ := h.bind counted
    have hreads := congrArg Overheard.reads hstate
    have hframes := congrArg Overheard.frames hstate
    exact .inr ⟨hresult, hreads, hframes⟩
  · obtain ⟨hresult, hstate⟩ := h.bind counted
    have hreads := congrArg Overheard.reads hstate
    have hframes := congrArg Overheard.frames hstate
    exact .inl ⟨e, hresult, hreads, hframes⟩

theorem reads_send_port (bytes : Bytes) (t : Timeout) (l : Link (Overheard σ)) :
    (onPort (SerialPort.send bytes t) l).state.reads = l.reads := by
  rcases send_port bytes t l with ⟨-, -, hstill⟩ | ⟨-, hreads, -⟩
  · exact hstill.reads
  · exact hreads

theorem frames_send_port (bytes : Bytes) (t : Timeout) (l : Link (Overheard σ)) :
    l.frames ≤ (onPort (SerialPort.send bytes t) l).state.frames := by
  rcases send_port bytes t l with ⟨-, -, hstill⟩ | ⟨-, -, hframes⟩
  · exact hstill.frames.symm ▸ Nat.le_refl _
  · exact hframes ▸ Nat.le_succ _

/-- A read that has a deadline, or is given the signal, leaves the port as free as it was. -/
theorem stuck_watching {n : Nat} {watched : Bool} (h : t ≠ .infinite ∨ watched = true)
    (l : Link (Overheard σ)) :
    (Link.watching (SerialPort.receive n t watched) l).state.Stuck ↔ l.Stuck := by
  have hnot : ¬ (⟨n, t, watched⟩ : Read).Endless := by
    rintro ⟨ht, hw⟩
    rcases h with h | h
    · exact h ht
    · exact Bool.false_ne_true (hw.symm.trans h)
  unfold Stuck
  rw [reads_watching]
  refine ⟨?_, fun ⟨r, hr, hendless⟩ => ⟨r, List.mem_append_left _ hr, hendless⟩⟩
  rintro ⟨r, hr, hendless⟩
  rcases List.mem_append.mp hr with hr | hr
  · exact ⟨r, hr, hendless⟩
  · exact absurd (List.mem_singleton.mp hr ▸ hendless) hnot

theorem steps_grows : Steps (Grows (σ := σ)) (fun _ => True) fun _ => True where
  flush _ := ⟨⟨List.prefix_refl _, Nat.le_refl _⟩, fun _ _ => trivial⟩
  send bytes t l :=
    have hreads := (List.append_nil _).trans (reads_send_port bytes t l).symm
    ⟨⟨⟨[], hreads⟩, frames_send_port bytes t l⟩, fun _ _ => trivial⟩
  read _ _ _ _ := ⟨⟨List.prefix_append _ _, Nat.le_refl _⟩, fun _ _ => trivial⟩
  own _ := trivial

/-- Calls with a deadline leave the port as free as it was. -/
theorem steps_stuck : Steps (InvImage Iff (Stuck (σ := σ))) (fun _ => True) (· ≠ .infinite) where
  flush _ := ⟨Iff.rfl, fun _ _ => trivial⟩
  send bytes t l := by
    refine ⟨?_, fun _ _ => trivial⟩
    rw [InvImage, Stuck, Stuck, reads_send_port]
  read n t ht l := ⟨(stuck_watching (.inl ht) l).symm, fun _ _ => trivial⟩
  own _ := trivial

/-! ## Sending -/

/-- From `l₀` the command did not go out and nothing was read, or it went out and its
acknowledgement was waited for. -/
def Goes (t : Timeout) (l₀ : Link (Overheard σ)) (o : Outcome Error (Link (Overheard σ)) α) :
    Prop :=
  (Still l₀ o.state ∧ ∃ e, o.result = .error e) ∨
    (l₀.frames < o.state.frames ∧ ⟨Frame.ack.length, t, false⟩ ∈ o.state.reads)

omit [SerialPort σ] in
theorem goes_bind {E : Error → Prop} {a : Op (Link (Overheard σ)) α}
    {f : α → Op (Link (Overheard σ)) β} (ha : Act.Leads Still E a) (hl : Still l₀ l)
    (hf : ∀ x l', Still l₀ l' → Goes t l₀ (f x l')) : Goes t l₀ ((a >>= f) l) := by
  rcases a.yields_or_fails l with ⟨x, h⟩ | ⟨e, h⟩
  · rw [Goes, (h.bind f).1, (h.bind f).2]
    exact hf x _ (hl.trans (ha l).1)
  · obtain ⟨hresult, hstate⟩ := h.bind f
    exact .inl ⟨hl.trans (hstate ▸ (ha l).1), e, hresult⟩

omit [SerialPort σ] in
/-- A refusal in front reads nothing and sends nothing. -/
theorem goes_unless {p : Prop} [Decidable p] {e : Error} {message : String}
    {f : Unit → Op (Link (Overheard σ)) α} (hl : Still l₀ l)
    (hf : ∀ l', Still l₀ l' → Goes t l₀ (f () l')) :
    Goes t l₀ ((if p then fail e message >>= f else f ()) l) := by
  have hfail : Act.Leads Still (fun _ => True) (fail e message : Op (Link (Overheard σ)) Unit) :=
    (Act.leads_log _ _ _).bind fun _ => Act.leads_throw trivial
  by_cases hp : p
  · rw [if_pos hp]
    exact goes_bind hfail hl fun _ => hf
  · rw [if_neg hp]
    exact hf l hl

/-- A frame that is taken is followed by the wait for its acknowledgement. -/
theorem goes_frame (frame : Bytes) (t : Timeout) (hl : Still l₀ l) :
    Goes t l₀ ((do
      reporting "Unable to transmit data (TX)" (onPort (SerialPort.send frame t))
      checkAck t (← reporting "Unable to read ACK" (read Frame.ack.length t)) :
        Op (Link (Overheard σ)) Unit) l) := by
  let sent : Op (Link (Overheard σ)) Unit :=
    reporting "Unable to transmit data (TX)" (onPort (SerialPort.send frame t))
  let waited (_ : Unit) : Op (Link (Overheard σ)) Unit := do
    checkAck t (← reporting "Unable to read ACK" (read Frame.ack.length t))
  change Goes t l₀ ((sent >>= waited) l)
  obtain ⟨hresult, hstate⟩ :=
    reporting_run "Unable to transmit data (TX)" (onPort (SerialPort.send frame t)) l
  rcases send_port frame t l with ⟨e, he, hstill⟩ | ⟨hok, hreads, hframes⟩
  · have hsent : sent.Fails l e (sent l).state := ⟨hresult.trans he, rfl⟩
    obtain ⟨hfails, hlast⟩ := hsent.bind waited
    refine .inl ⟨hl.trans ?_, e, hfails⟩
    rw [hlast, hstate]
    exact hstill
  · -- the wait for the acknowledgement comes first, and what follows only adds to the reads
    have hsent : sent.Yields l () (sent l).state := ⟨hresult.trans hok, rfl⟩
    have hread := (reporting_run "Unable to read ACK" (read Frame.ack.length t) (sent l).state).2
    have hgrows : Grows (read Frame.ack.length t (sent l).state).state
        (waited () (sent l).state).state :=
      hread ▸ Act.leads_after (fun reply => leads_checkAck steps_grows trivial reply) _
    have hold : l₀.frames < (sent l).state.frames := by
      rw [show (sent l).state.frames = l.frames + 1 from hstate ▸ hframes, hl.frames]
      exact Nat.lt_succ_self _
    rw [Goes, (hsent.bind waited).2]
    refine .inr ⟨Nat.lt_of_lt_of_le hold hgrows.frames, hgrows.reads.subset ?_⟩
    exact List.mem_append_right _ (List.mem_singleton.mpr rfl)

theorem goes_send (data : Bytes) (t : Timeout) (l₀ : Link (Overheard σ)) :
    Goes t l₀ (send data t l₀) := by
  have hflush : Act.Leads Still (fun _ => True)
      (onPort (SerialPort.flush false) : Op (Link (Overheard σ)) Unit) :=
    fun l => ⟨still_flush l, fun _ _ => trivial⟩
  refine goes_unless (refl_of Still l₀) fun l hl => goes_unless hl fun l hl => ?_
  refine goes_bind hflush hl fun _ l hl => ?_
  refine goes_bind (Frame.leads_encodeOp (fun _ => trivial) data) hl fun frame l hl => ?_
  exact goes_frame _ t hl

end Link

/-! ## Commands that go out -/

/-- A link with the timeouts of the commands that went out over it. -/
structure Posting (σ : Type) where
  link : Link (Overheard σ)
  posted : List Timeout := []

namespace Posting

variable {σ α : Type}

/-- Runs an action of the link itself. -/
def passing (a : Op (Link (Overheard σ)) α) : Op (Posting σ) α :=
  a.zoom Posting.link fun l p => { p with link := l }

/-- Notes the timeout of a command if a frame was taken for it. -/
def note (t : Timeout) (before : Nat) (p : Posting σ) : Posting σ :=
  if before < p.link.frames then { p with posted := p.posted ++ [t] } else p

instance [SerialPort σ] : Pn53x.ChipLink (Posting σ) where
  send data t := do
    let before := (← get).link.frames
    let r ← (passing (Link.send data t)).attempt
    modify (note t before)
    Act.ofExcept r
  receive capacity command t := passing (Link.receive capacity command t)
  signal? p := Pn53x.ChipLink.signal? p.link
  raiseSignal p := { p with link := Pn53x.ChipLink.raiseSignal p.link }
  clock p := Pn53x.ChipLink.clock p.link
  abortCommand := passing Pn53x.ChipLink.abortCommand
  supportsPowerDown p := Pn53x.ChipLink.supportsPowerDown p.link
  close p := { p with link := Pn53x.ChipLink.close p.link }

/-- An endless read was asked for exactly if a command without a deadline went out. -/
def Sound (p : Posting σ) : Prop := p.link.Stuck ↔ .infinite ∈ p.posted

/-- What was sound still is. -/
def Keeps (p p' : Posting σ) : Prop := p.Sound → p'.Sound

instance : IsPreorder (Posting σ) Keeps where
  refl _ := id
  trans _ _ _ h h' := h' ∘ h

variable [SerialPort σ] {p : Posting σ} {t : Timeout}

theorem send_run (data : Bytes) (t : Timeout) (p : Posting σ) :
    (Pn53x.ChipLink.send data t p).result = (Link.send data t p.link).result ∧
      (Pn53x.ChipLink.send data t p).state =
        note t p.link.frames { p with link := (Link.send data t p.link).state } := by
  let sent : Op (Posting σ) (Except Error Unit) := (passing (Link.send data t)).attempt
  let noted (r : Except Error Unit) : Op (Posting σ) Unit := do
    modify (note t p.link.frames)
    Act.ofExcept r
  change ((sent >>= noted) p).result = _ ∧ ((sent >>= noted) p).state = _
  rw [(Act.attempt_bind _ _ _).1, (Act.attempt_bind _ _ _).2, (Act.modify_bind _ _ _).1,
    (Act.modify_bind _ _ _).2, Act.ofExcept_apply]
  exact ⟨rfl, rfl⟩

/-- Commands with a deadline. -/
theorem leads_send (ht : t ≠ .infinite) (data : Bytes) : Act.Leads Keeps (fun _ => True)
    (Pn53x.ChipLink.send data t : Op (Posting σ) Unit) := by
  refine fun p => ⟨fun h => ?_, fun _ _ => trivial⟩
  have hstuck : p.link.Stuck ↔ (Link.send data t p.link).state.Stuck :=
    (Link.leads_send Link.steps_stuck ht data p.link).1
  rw [(send_run data t p).2]
  unfold note
  split
  · refine (hstuck.symm.trans h).trans ?_
    simp [ht.symm]
  · exact hstuck.symm.trans h

/-- Replies that are waited for with a deadline. -/
theorem leads_receive (ht : t ≠ .infinite) (capacity : Nat) (command : UInt8) :
    Act.Leads Keeps (fun _ => True)
      (Pn53x.ChipLink.receive capacity command t : Op (Posting σ) Bytes) := by
  refine fun p => ⟨fun h => ?_, fun _ _ => trivial⟩
  have hstuck : p.link.Stuck ↔ (Link.receive capacity command t p.link).state.Stuck :=
    (Link.leads_receiveWithin Link.steps_stuck (by decide) trivial
      (fun _ l => ⟨(Link.stuck_watching (.inr rfl) l).symm, fun _ _ => trivial⟩) ht
      Link.maxRecoveries capacity command p.link).1
  exact hstuck.symm.trans h

/-- Asking for an echo has a deadline. -/
theorem leads_checkCommunication : Act.Leads Keeps (fun _ => True)
    (Pn53x.checkCommunication : Op (Posting σ) Unit) := by
  refine (leads_send (by decide) _).bind fun _ => ?_
  refine (leads_receive (by decide) _ _).bind fun reply => ?_
  exact .ite ((Act.leads_log _ _ _).bind fun _ => Act.leads_throw trivial) (Act.leads_pure _)

/-- A command without a deadline. -/
theorem send_infinite (data : Bytes) (h : Sound p) :
    let o := Pn53x.ChipLink.send data .infinite p
    Sound o.state ∧ (o.result = .ok () → .infinite ∈ o.state.posted) := by
  intro o
  obtain ⟨hresult, hstate⟩ := send_run data .infinite p
  rw [show o.state = _ from hstate, show o.result = _ from hresult]
  rcases Link.goes_send data .infinite p.link with ⟨hstill, e, he⟩ | ⟨hframes, hread⟩
  · rw [he, note, if_neg (Nat.not_lt.mpr (Nat.le_of_eq hstill.frames))]
    refine ⟨?_, nofun⟩
    change (∃ r ∈ (Link.send data .infinite p.link).state.reads, r.Endless) ↔ _
    rw [hstill.reads]
    exact h
  · rw [note, if_pos hframes]
    have hposted : Timeout.infinite ∈ p.posted ++ [.infinite] :=
      List.mem_append_right _ (List.mem_singleton.mpr rfl)
    exact ⟨⟨fun _ => hposted, fun _ => ⟨_, hread, rfl, rfl⟩⟩, fun _ => hposted⟩

/-- Reads that were asked for are not forgotten. -/
theorem sound_receive_of_posted (capacity : Nat) (command : UInt8) (h : Sound p)
    (hposted : .infinite ∈ p.posted) :
    Sound (Pn53x.ChipLink.receive capacity command t p).state := by
  have hgrows : Link.Grows p.link (Link.receive capacity command t p.link).state :=
    (Link.leads_receiveWithin Link.steps_grows trivial trivial
      (fun _ l => ⟨⟨List.prefix_append _ _, Nat.le_refl _⟩, fun _ _ => trivial⟩) trivial
      Link.maxRecoveries capacity command p.link).1
  exact ⟨fun _ => hposted, fun _ => hgrows.stuck (h.mpr hposted)⟩

/-- Every exchange keeps the account of endless reads. -/
theorem leads_carry (code : UInt8) (params : Bytes) (t : Timeout) :
    Act.Leads Keeps (fun _ => True) (Pn53x.carry code params t : Op (Posting σ) Bytes) := by
  -- an exchange with a deadline asks for no endless read; one without is posted if it goes out,
  -- and then every read of its reply is accounted for
  by_cases ht : t = .infinite
  · subst ht
    refine fun p => ⟨fun h => ?_, fun _ _ => trivial⟩
    let sent : Op (Posting σ) Unit := Pn53x.ChipLink.send (code :: params) .infinite
    let received (_ : Unit) : Op (Posting σ) Bytes :=
      Pn53x.ChipLink.receive Pn53x.replyCapacity code .infinite
    change Sound ((sent >>= received) p).state
    obtain ⟨hsound, hposted⟩ := send_infinite (code :: params) h
    rcases sent.yields_or_fails p with ⟨_, hsent⟩ | ⟨e, hsent⟩
    · rw [(hsent.bind received).2]
      exact sound_receive_of_posted _ _ hsound (hposted hsent.1)
    · rw [(hsent.bind received).2]
      exact hsound
  · exact (leads_send ht _).bind fun _ => leads_receive ht _ _

end Posting

end Arygon

/-! ## Runs of the chip layer -/

namespace Pn53x.Chip
open Arygon Simulated

variable {σ : Type}

/-- A chip on a serial link, with nothing noted of the link yet. -/
def overheard (c : Chip (Link σ)) : Chip (Posting σ) :=
  c.mapLink fun l => { link := l.map fun p => { port := p } }

variable [SerialPort σ] {c : Chip (Posting σ)}

/-- What the chip layer does with replies is of no account for the link. -/
theorem interchange_sound : Interchange (UsualWithin fun _ => True) (fun _ => True)
    fun p p' : Posting σ => p = p' ∧ p.Sound where
  carry code params t _ := by
    rintro p p' ⟨rfl, hp⟩
    exact ⟨rfl, rfl, (Posting.leads_carry code params t p).1 hp⟩
  usual _ := trivial
  endless := trivial

theorem sound_call {α : Type} (call : Call α) (h : c.link.Sound) :
    (call.run c).state.link.Sound := by
  have hpaired := (simulates_run interchange_sound call (fun _ _ => trivial) c c
    ⟨rfl, trivial, rfl, h⟩).2
  exact hpaired.link.2

theorem sound_run (op : Operation) (h : c.link.Sound) : (op.run c).link.Sound := by
  cases op with
  | call call => exact sound_call call.2 h
  | checkCommunication => exact (Posting.leads_checkCommunication c.link).1 h
  | powerDown => exact h
  | abortCommand => exact h
  | raiseSignal => exact h
  | close =>
      have hidle : (Reader.close c).state.link = ChipLink.close (idle c).state.link :=
        congrArg link (close_state c)
      have hsound : (idle c).state.link.Sound := sound_call .idle h
      rw [Operation.run, hidle]
      exact hsound

theorem sound_after (ops : List Operation) (h : c.link.Sound) : (after ops c).link.Sound := by
  induction ops generalizing c with
  | nil => exact h
  | cons op ops ih => exact ih (sound_run op h)

/-- **Endless reads come with commands without a deadline.**  In every run of the chip layer over
a serial link, the port is asked for a read that has no deadline and is not given the abort signal
exactly if a command without a deadline went out. -/
theorem endless_read_iff (ops : List Operation) (c : Chip (Link σ)) :
    let p := (after ops (overheard c)).link
    (∃ r ∈ p.link.reads, r.timeout = .infinite ∧ r.watched = false) ↔ .infinite ∈ p.posted := by
  have hstart : (overheard c).link.Sound := ⟨fun ⟨_, hr, _⟩ => (List.not_mem_nil hr).elim, nofun⟩
  exact sound_after ops hstart

/-- Selecting a target on a new chip asks for such a read. -/
theorem endless_read_select : ¬ ∀ (ops : List Operation) (c : Chip (Link Line)),
    ∀ r ∈ (after ops (overheard c)).link.link.reads, r.timeout = .infinite → r.watched = true := by
  intro h
  let select : Operation := .call ⟨_, .selectPassive ⟨.iso14443a, .kbps106⟩ []⟩
  let c : Chip (Link Line) := { link := ⟨{ hardware := {} }⟩ }
  have hreads : (after [select] (overheard c)).link.link.reads = [⟨6, .infinite, false⟩] := rfl
  have hread : ⟨6, .infinite, false⟩ ∈ (after [select] (overheard c)).link.link.reads :=
    hreads ▸ List.mem_singleton_self _
  exact Bool.false_ne_true (h [select] c _ hread rfl)

end Pn53x.Chip

end NearField
