import NearField.Proofs.Serial.Sliced
import NearField.Simulated.Bench

/-!
# Commands on a line that was left in the middle

A command that failed, ran out of time or was aborted may leave bytes on the line that nobody
has read.  They do not reach the commands after it: sending discards the unread input first, so
an exchange does not depend on it in anything, as long as discarding it succeeds
(`transceive_unread`).  If the line answers the command, and its port hands out bytes that are there
without looking at the signal, what the exchange ends in is then decided by the reply alone
(`transceive_answered`), also while an abort is pending.  Together they say that every command finds
the line in step (`transceive_resync`).
-/

namespace NearField

/-- A serial line whose unread input is told apart from the rest of its state.  Discarding the
input forgets what it was. -/
class Unread (σ : Type) [SerialPort σ] where
  /-- The line with exactly these bytes to read. -/
  hold : Bytes → σ → σ
  /-- If discarding the input succeeds, it ends alike whatever the input was. -/
  flush_hold (s : σ) (old old' : Bytes) :
    (SerialPort.flush false (hold old s)).result = .ok () →
      SerialPort.flush false (hold old' s) = SerialPort.flush false (hold old s)

/-! ## Lines -/

namespace Simulated

instance : Unread Line where
  hold old l := { l with input := old }
  flush_hold _ _ _ _ := rfl

instance : Unread (Sliced Line) where
  hold old s := ⟨{ s.line with input := old }⟩
  flush_hold _ _ _ _ := rfl

namespace Bench

variable {b : Bench} {k : PortKey} {p : BenchPort}

theorem port_setPort (hk : k.index < b.ports.length) : (b.setPort k p).port k = p := by
  simp [setPort, port, hk]

theorem setPort_of_length_le (hk : b.ports.length ≤ k.index) : b.setPort k p = b := by
  simp [setPort, List.set_eq_of_length_le hk]

theorem portCall_setPort (hk : k.index < b.ports.length) (call : String) (e : PortEvent) :
    (portCall k call e : Op Bench _) (b.setPort k p) = ⟨.ok (p.faults.next call).1,
      (b.record (.port p.name e)).setPort k { p with faults := (p.faults.next call).2 }, []⟩ := by
  have hname : ((b.setPort k p).port k).name = p.name := by rw [port_setPort hk]
  have hport : ((b.setPort k p).record (.port p.name e)).port k = p := port_setPort hk
  have hset (q : BenchPort) : ((b.setPort k p).record (.port p.name e)).setPort k q =
      (b.record (.port p.name e)).setPort k q := by
    simp [setPort, record]
  unfold portCall
  rw [Act.bind_of_ok (x := ⟨⟩) rfl, Act.modify_apply, hname]
  simp only [onPort, Act.zoom_apply, hport, hset]
  rfl

/-- A call of a port fails as planned, or is one of its line. -/
theorem lineCall_setPort (hk : k.index < b.ports.length) (call : String) (e : PortEvent)
    (a : Op Line Unit) :
    let b' := b.record (.port p.name e)
    let p' := { p with faults := (p.faults.next call).2 }
    lineCall call e a (b.setPort k p, k) =
      match (p.faults.next call).1 with
      | some (.fails err) => ⟨.error err, (b'.setPort k p', k), []⟩
      | _ => ⟨(a p.line).result, (b'.setPort k { p' with line := (a p.line).state }, k),
        (a p.line).log⟩ := by
  intro b' p'
  have hcall : (portCall k call e : Op Bench _) (b.setPort k p) = ⟨_, b'.setPort k p', _⟩ :=
    portCall_setPort hk call e
  have hport (q : BenchPort) : (b'.setPort k q).port k = q := port_setPort hk
  have hset (q q' : BenchPort) : (b'.setPort k q).setPort k q' = b'.setPort k q' := by
    simp [setPort]
  unfold lineCall below
  simp only [Act.zoom_apply]
  rw [Act.bind_of_ok (congrArg Outcome.result hcall), hcall]
  rcases (p.faults.next call).1 with _ | err | _
  · simp only [onPort, onLine, Act.zoom_apply, hport, hset, List.nil_append, p']
  · rfl
  · simp only [onPort, onLine, Act.zoom_apply, hport, hset, List.nil_append, p']

/-- The bench with exactly these bytes to read at a port. -/
def hold (old : Bytes) (s : Bench × PortKey) : Bench × PortKey :=
  (s.1.setPort s.2 { s.1.port s.2 with line := { (s.1.port s.2).line with input := old } }, s.2)

/-- Discarding the input of a port may fail as planned, but does not depend on that input. -/
theorem flush_hold (s : Bench × PortKey) (old old' : Bytes)
    (h : (SerialPort.flush false (hold old s)).result = .ok ()) :
    SerialPort.flush false (hold old' s) = SerialPort.flush false (hold old s) := by
  obtain ⟨b, k⟩ := s
  rcases Nat.lt_or_ge k.index b.ports.length with hk | hk
  · have hflush (old : Bytes) := lineCall_setPort
      (p := { b.port k with line := { (b.port k).line with input := old } }) hk "flush"
      (.flush false) (SerialPort.flush false)
    have hok := (congrArg Outcome.result (hflush old)).symm.trans h
    refine (hflush old').trans (Eq.trans ?_ (hflush old).symm)
    revert hok
    simp only
    rcases ((b.port k).faults.next "flush").1 with _ | err | _
    · exact fun _ => rfl
    · nofun
    · exact fun _ => rfl
  · rw [hold, hold, setPort_of_length_le hk, setPort_of_length_le hk]

instance : Unread (Bench × PortKey) where
  hold := hold
  flush_hold := flush_hold

end Bench

end Simulated

namespace Arygon.Link
open Simulated

variable {σ : Type}

/-! ## Input that nobody has read -/

section Unread

variable [SerialPort σ] [Unread σ] {l : Link σ} {old : Bytes}

/-- The link with exactly these bytes to read on its line. -/
def unread (old : Bytes) (l : Link σ) : Link σ :=
  ⟨{ l.line with hardware := Unread.hold old l.line.hardware }⟩

/-- Discarding the unread input of the line succeeds. -/
def Flushes (l : Link σ) : Prop := (SerialPort.flush false l.line.hardware).result = .ok ()

theorem flush_unread (h : (l.unread old).Flushes) (old' : Bytes) :
    onPort (SerialPort.flush false) (l.unread old') =
      onPort (SerialPort.flush false) (l.unread old) := by
  have hport := Unread.flush_hold l.line.hardware old old' h
  exact congrArg (fun o : Outcome Error σ Unit =>
    (⟨o.result, ⟨{ l.line with hardware := o.state }⟩, o.log⟩ : Outcome Error (Link σ) Unit)) hport

/-- Neither sending nor the reply to it depends on the unread input. -/
theorem carry_unread {code : UInt8} {params : Bytes}
    (hlen : (code :: params).length ≤ Frame.maxData) (h : (l.unread old).Flushes) (old' : Bytes)
    (t : Timeout) :
    Pn53x.carry code params t (l.unread old') = Pn53x.carry code params t (l.unread old) := by
  have hsend : send (code :: params) t (l.unread old') =
      send (code :: params) t (l.unread old) := by
    unfold send
    rw [if_neg (by simp), if_neg (Nat.not_lt.mpr hlen)]
    exact Act.bind_run_congr (flush_unread h old') _
  exact Act.bind_run_congr hsend _

end Unread

end Arygon.Link

namespace Pn53x.Chip
open Arygon Simulated

variable {σ : Type} [SerialPort σ] [Unread σ]

/-- The chip with exactly these bytes to read on its line. -/
def unread (old : Bytes) : Chip (Link σ) → Chip (Link σ) := mapLink (Link.unread old)

theorem transceive_unread {code : UInt8} {params old : Bytes} {c : Chip (Link σ)}
    (hlen : (code :: params).length ≤ Frame.maxData) (h : (c.unread old).link.Flushes)
    (old' : Bytes) (t : Timeout) :
    transceive (code :: params) t (c.unread old') =
      transceive (code :: params) t (c.unread old) := by
  have hcarry := Link.carry_unread hlen h old' t
  rw [transceive_eq]
  refine Act.bind_eq_bind (x := ⟨⟩) rfl rfl rfl ?_
  refine Act.bind_eq_bind (x := ()) rfl rfl rfl (Act.bind_run_congr ?_ _)
  exact congrArg (fun o : Outcome Error (Link σ) Bytes =>
    (⟨o.result, { c with lastStatus := 0, link := o.state }, o.log⟩ :
      Outcome Error (Chip (Link σ)) Bytes)) hcarry

omit [Unread σ] in
/-- **An exchange is decided by its reply** if the port takes the command, has an acknowledgement
and a reply to it to read then, and hands them out.  The whole reply is taken off the line. -/
theorem transceive_answered [PromptPort σ] {code : UInt8} {params reply : Bytes}
    {c : Chip (Link σ)} {flushed answered : σ} {t : Timeout}
    (hlen : (code :: params).length ≤ Frame.maxData) (hreply : reply.length ≤ 253)
    (hflush : (SerialPort.flush false).Yields c.link.line.hardware () flushed)
    (hsend : (SerialPort.send (Link.wire (code :: params)) t).Yields flushed () answered)
    (hinput : PromptPort.input answered = Frame.ack ++ Frame.encodeReply code reply) :
    (transceive (code :: params) t c).result = answer code reply ∧
      PromptPort.input (transceive (code :: params) t c).state.link.line.hardware = [] := by
  -- flushing and sending leave the signal alone, so the link has the answer on its port
  have honFlush : (Link.onPort (SerialPort.flush false)).Yields c.link ()
      ⟨{ c.link.line with hardware := flushed }⟩ :=
    Act.yields_zoom.mpr ⟨flushed, hflush, rfl⟩
  have honSend : (Link.onPort (SerialPort.send (Link.wire (code :: params)) t)).Yields
      ⟨{ c.link.line with hardware := flushed }⟩ () ⟨{ c.link.line with hardware := answered }⟩ :=
    Act.yields_zoom.mpr ⟨answered, hsend, rfl⟩
  obtain ⟨l, hcarry, hl⟩ := Link.supplies_available.carry hlen honFlush honSend hreply hinput
  obtain ⟨hresult, hlink⟩ := transceive_of_carry hcarry
  exact ⟨hresult, hlink ▸ hl⟩

omit [Unread σ] in
/-- A port that waits with an eye on the signal ends a command in the abort that is pending, if what
it waits for is not there. -/
theorem transceive_pending [InterruptiblePort σ] [WatchfulPort σ] {code : UInt8} {params : Bytes}
    {c : Chip (Link σ)} {t : Timeout} {l : Link σ} (ht : t ≠ .millis 0)
    (hsend : (Link.send (code :: params) t).Yields c.link () l)
    (hraised : l.line.signal.raised = true) (hsilent : WatchfulPort.Silent 5 l.line.hardware) :
    (transceive (code :: params) t c).result = .error .operationAborted := by
  have hwait : (Link.receive replyCapacity code t l).result = .error .operationAborted :=
    ((Link.relays_receive (by decide)).aborts_iff l).mpr (WatchfulPort.silent hsilent hraised ht)
  have hcarry : (carry code params t).Fails c.link .operationAborted _ :=
    Act.fails_bind.mpr (.inr ⟨(), l, hsend, hwait, rfl⟩)
  exact (transceive_of_fails hcarry).1

/-- **The line is in step again** with every command.  Two chips that differ in the unread bytes
on their lines run the command as one: same result, same bytes on the line, same unread bytes
behind it.  If the line answers, over a port that hands out its bytes before it looks at the signal,
the command delivers the parameters of the reply or the failure that their status byte reports,
whether or not an abort is pending; a reply without the status byte that is due is refused. -/
theorem transceive_resync (code : UInt8) (params : Bytes)
    (hlen : (code :: params).length ≤ Frame.maxData) (t : Timeout) :
    (∀ (c : Chip (Link σ)) (old old' : Bytes), (c.unread old).link.Flushes →
        transceive (code :: params) t (c.unread old) =
          transceive (code :: params) t (c.unread old')) ∧
      ∀ [PromptPort σ] (c : Chip (Link σ)) (reply : Bytes) (flushed answered : σ),
        reply.length ≤ 253 →
        (SerialPort.flush false).Yields c.link.line.hardware () flushed →
        (SerialPort.send (Link.wire (code :: params)) t).Yields flushed () answered →
        PromptPort.input answered = Frame.ack ++ Frame.encodeReply code reply →
        let o := transceive (code :: params) t c
        o.result = answer code reply ∧ PromptPort.input o.state.link.line.hardware = [] := by
  refine ⟨fun c old old' h => ?_, fun c reply flushed answered hreply hflush hsend hinput => ?_⟩
  · exact (transceive_unread hlen h old' t).symm
  · exact transceive_answered hlen hreply hflush hsend hinput

/-- A chip whose line holds old bytes, while an abort is pending, and answers the next command
that lets a target go. -/
def interrupted (old reply : Bytes) : Chip (Link Line) :=
  let answering : Line :=
    { input := old, replies := [Frame.ack ++ Frame.encodeReply inDeselect reply] }
  { link := ⟨{ hardware := answering, signal := ⟨true⟩ }⟩ }

/-- What was left on the line makes no difference, and the status byte is delivered. -/
theorem transceive_resync_deselect :
    let cmd : Bytes := [inDeselect, 0x00]
    transceive cmd .default (interrupted [0xD5, 0x45] [0x00]) =
        transceive cmd .default (interrupted [] [0x00]) ∧
      (transceive cmd .default (interrupted [0xD5, 0x45] [0x00])).result = .ok [0x00] := by
  intro cmd
  obtain ⟨hunread, hanswered⟩ :=
    transceive_resync (σ := Line) inDeselect [0x00] (by decide) .default
  refine ⟨hunread (interrupted [] [0x00]) [0xD5, 0x45] [] rfl, ?_⟩
  exact (hanswered (interrupted [0xD5, 0x45] [0x00]) [0x00] _ _ (by decide) ⟨rfl, rfl⟩ ⟨rfl, rfl⟩
    rfl).1

/-- Two answers to a command that lets a target go which are not delivered.  Where a status byte is
due, an empty reply is refused.  A port that is read in slices takes the abort that is pending, and
leaves the whole reply on the line. -/
theorem transceive_not_delivered :
    let cmd : Bytes := [inDeselect, 0x00]
    let refused := transceive cmd .default (interrupted [] [])
    let aborted := transceive cmd .default ((interrupted [] [0x00]).mapLink (Link.map Sliced.mk))
    (refused.result = .error .io ∧ ¬ ∃ status rest, [] = status :: rest ∧
        refused.result = .error (statusError status)) ∧
      aborted.result = .error .operationAborted ∧ answer inDeselect [0x00] = .ok [0x00] := by
  intro cmd refused aborted
  have hrefused : refused.result = .error .io := (transceive_answered (c := interrupted [] [])
    (by decide) (by decide) ⟨rfl, rfl⟩ ⟨rfl, rfl⟩ rfl).1
  have haborted : aborted.result = .error .operationAborted :=
    transceive_pending (by decide) ⟨rfl, rfl⟩ rfl (Nat.succ_ne_zero 4)
  exact ⟨⟨hrefused, fun ⟨_, _, hcons, _⟩ => List.cons_ne_nil _ _ hcons.symm⟩, haborted, rfl⟩

end Pn53x.Chip

end NearField
