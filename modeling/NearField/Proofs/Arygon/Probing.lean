import NearField.Proofs.Arygon.Scan

/-!
# Ports that a scan tries

A scan tries one port after the other: it claims it, discards old input, sets the usual speed, and
if a connection string can be built for it, sends the reset and waits for the answer.  How that goes
at a port is its `Course`, and `Takes` says by the calls of the host and of the port which course it
takes from a world.  `PortProvider.recorded` is a host whose calls are noted under the name of the
port, each with how it ended; the calls of a port are those of its course (`Takes.recorded`).

The ports that are tried are the first ones up to the last reader that was asked for (`tried`).
Those behind which a reader answers are reported, and a port that was made ready is closed again
once (`scan_tries`).
-/

namespace NearField

/-- A call of a host or of one of its ports, and how it ended. -/
inductive LineCall where
  | claim (ended : Except Error Unit)
  | flush (wait : Bool) (ended : Except Error Unit)
  | setSpeed (bauds : UInt32) (ended : Except Error Unit)
  | send (bytes : Bytes) (t : Timeout) (ended : Except Error Unit)
  | receive (n : Nat) (t : Timeout) (watched : Bool) (ended : Except Error Bytes)
  | close
  deriving DecidableEq

namespace Noted

variable {ω π α : Type}

/-- A handle that carries a name, without it and in the world itself. -/
def bare (s : Noted (String × LineCall) ω × (String × π)) : ω × π := (s.1.world, s.2.2)

/-- The handle is put back under its name, and a call is noted under that. -/
def putNamed (call : LineCall) (p : ω × π) (s : Noted (String × LineCall) ω × (String × π)) :
    Noted (String × LineCall) ω × (String × π) :=
  (⟨p.1, s.1.notes ++ [(s.2.1, call)]⟩, (s.2.1, p.2))

/-- Runs an action of a handle in the world itself, and notes how it ended. -/
def recordingNamed (f : Except Error α → LineCall) (a : Op (ω × π) α) :
    Op (Noted (String × LineCall) ω × (String × π)) α := fun s =>
  let o := a (bare s)
  ⟨o.result, putNamed (f o.result) o.state s, o.log⟩

instance [SerialPort (ω × π)] : SerialPort (Noted (String × LineCall) ω × (String × π)) where
  setSpeed bauds := recordingNamed (.setSpeed bauds) (SerialPort.setSpeed bauds)
  flush wait := recordingNamed (.flush wait) (SerialPort.flush wait)
  send bytes t := recordingNamed (.send bytes t) (SerialPort.send bytes t)
  receive n t watched v :=
    let o := SerialPort.receive n t watched (v.map bare)
    ⟨o.result, ⟨putNamed (.receive n t watched o.result) o.state.hardware v.hardware,
      o.state.signal⟩, o.log⟩
  close s := putNamed .close (SerialPort.close (bare s)) s
  clock s := SerialPort.clock (bare s)

end Noted

/-- A host that notes its calls and those of its ports, each under the name of the port. -/
def PortProvider.recorded {ω π : Type} (provider : PortProvider ω π) :
    PortProvider (Noted (String × LineCall) ω) (String × π) where
  ports n := provider.ports n.world
  claim name := do
    let key ← Noted.recording (fun r => (name, .claim (r.map fun _ => ()))) (provider.claim name)
    return (name, key)

/-! ## Calls that are noted -/

section Recorded

variable {ω π : Type} {provider : PortProvider ω π} {name : String} {key : π} {w w' : ω}
  {s s' : ω × π} (notes : List (String × LineCall))

/-- An action of a handle ends as it does in the world itself, and is noted. -/
theorem Noted.recordingNamed_run {α : Type} {f : Except Error α → LineCall} {a : Op (ω × π) α}
    {r : Except Error α} (h : (a s).result = r ∧ (a s).state = s') :
    (recordingNamed f a (⟨s.1, notes⟩, (name, s.2))).result = r ∧
      (recordingNamed f a (⟨s.1, notes⟩, (name, s.2))).state =
        (⟨s'.1, notes ++ [(name, f r)]⟩, (name, s'.2)) := by
  obtain ⟨rfl, rfl⟩ := h
  exact ⟨rfl, rfl⟩

theorem Noted.receive_run [SerialPort (ω × π)] {n : Nat} {t : Timeout} {watched : Bool}
    {signal : AbortSignal} {r : Except Error Bytes} {v : Watched (ω × π)}
    (h : (SerialPort.receive n t watched ⟨s, signal⟩).result = r ∧
      (SerialPort.receive n t watched ⟨s, signal⟩).state = v) :
    let received := SerialPort.receive n t watched
      (⟨(⟨s.1, notes⟩, (name, s.2)), signal⟩ : Watched (Noted (String × LineCall) ω × _))
    received.result = r ∧ received.state =
      ⟨(⟨v.hardware.1, notes ++ [(name, .receive n t watched r)]⟩, (name, v.hardware.2)),
        v.signal⟩ := by
  obtain ⟨rfl, rfl⟩ := h
  exact ⟨rfl, rfl⟩

theorem PortProvider.recorded_yields (h : (provider.claim name).Yields w key w') :
    (provider.recorded.claim name).Yields ⟨w, notes⟩ (name, key)
      ⟨w', notes ++ [(name, .claim (.ok ()))]⟩ := by
  obtain ⟨hresult, rfl⟩ := h
  refine Act.yields_bind.mpr ⟨key, _, ⟨?_, rfl⟩, rfl, ?_⟩
  · exact (Noted.recording_run _ _ _).1.trans hresult
  · rw [(Noted.recording_run _ _ _).2, hresult]
    rfl

theorem PortProvider.recorded_fails {e : Error} (h : (provider.claim name).Fails w e w') :
    (provider.recorded.claim name).Fails ⟨w, notes⟩ e
      ⟨w', notes ++ [(name, .claim (.error e))]⟩ := by
  obtain ⟨hresult, rfl⟩ := h
  refine Act.fails_bind.mpr (.inl ⟨?_, ?_⟩)
  · exact (Noted.recording_run _ _ _).1.trans hresult
  · rw [(Noted.recording_run _ _ _).2, hresult]
    rfl

end Recorded

namespace Arygon

open ConnString

/-! ## Courses -/

/-- How it goes at a port. -/
inductive Course (port : String) where
  /-- The port can not be claimed. -/
  | refused (e : Error)
  /-- Old input can not be discarded. -/
  | jammed (e : Error)
  /-- The speed can not be set. -/
  | untuned (e : Error)
  /-- The port is ready, and no connection string can be built for it. -/
  | unnamed (h : ¬ ∃ c : ConnString, c.text = scanText port)
  /-- The reset is sent, whatever comes of that, and its answer is waited for. -/
  | probed (h : ∃ c : ConnString, c.text = scanText port) (sent : Except Error Unit)
      (answer : Except Error Bytes)

/-- The answer to a reset is that there is no error. -/
def answersReset : Except Error Bytes → Bool
  | .ok reply => reply = noError
  | .error _ => false

/-- That answer, as text. -/
example : noError = "FF000000\r\n".toList.map fun x => UInt8.ofNat x.toNat := by decide

namespace Course

variable {port : String}

/-- The port was made ready. -/
def ready : Course port → Bool
  | refused _ | jammed _ | untuned _ => false
  | unnamed _ | probed .. => true

/-- A reader is behind the port, and can be reported. -/
def hit : Course port → Bool
  | probed _ _ answer => answersReset answer
  | _ => false

/-- The calls that make a port ready. -/
def opening : List LineCall :=
  [.claim (.ok ()), .flush true (.ok ()), .setSpeed (UInt32.ofNat defaultSpeed) (.ok ())]

/-- The calls of a port. -/
def calls : Course port → List LineCall
  | refused e => [.claim (.error e)]
  | jammed e => [.claim (.ok ()), .flush true (.error e)]
  | untuned e =>
      [.claim (.ok ()), .flush true (.ok ()), .setSpeed (UInt32.ofNat defaultSpeed) (.error e)]
  | unnamed _ => opening ++ [.close]
  | probed _ sent answer => opening ++
      [.send resetCommand resetSendTimeout sent, .receive 10 resetReplyTimeout false answer, .close]

/-- A port that was made ready is closed once, and any other one is not. -/
theorem count_close (course : Course port) :
    course.calls.count .close = if course.ready then 1 else 0 := by
  cases course <;> simp [calls, opening, ready]

end Course

variable {ω π : Type} [SerialPort (ω × π)] {provider : PortProvider ω π} {port : String}
  {course : Course port} {w w' : ω}

/-- A port is claimed, old input is discarded and the usual speed is set. -/
def Readied (provider : PortProvider ω π) (port : String) (w : ω) (key : π) (s : ω × π) : Prop :=
  ∃ w₁ s₁, (provider.claim port).Yields w key w₁ ∧
    (SerialPort.flush true).Yields (w₁, key) () s₁ ∧
      (SerialPort.setSpeed (UInt32.ofNat defaultSpeed)).Yields s₁ () s

/-- From a world a port takes this course, and leaves that world. -/
inductive Takes (provider : PortProvider ω π) (port : String) (w : ω) : Course port → ω → Prop where
  | refused {e : Error} {w' : ω} (h : (provider.claim port).Fails w e w') :
      Takes provider port w (.refused e) w'
  | jammed {e : Error} {key : π} {w₁ : ω} {s : ω × π}
      (hclaim : (provider.claim port).Yields w key w₁)
      (hflush : (SerialPort.flush true).Fails (w₁, key) e s) : Takes provider port w (.jammed e) s.1
  | untuned {e : Error} {key : π} {w₁ : ω} {s s' : ω × π}
      (hclaim : (provider.claim port).Yields w key w₁)
      (hflush : (SerialPort.flush true).Yields (w₁, key) () s)
      (hspeed : (SerialPort.setSpeed (UInt32.ofNat defaultSpeed)).Fails s e s') :
      Takes provider port w (.untuned e) s'.1
  | unnamed {key : π} {s : ω × π} (hready : Readied provider port w key s)
      (h : ¬ ∃ c : ConnString, c.text = scanText port) :
      Takes provider port w (.unnamed h) (SerialPort.close (s.1, key)).1
  | probed {key : π} {s s' : ω × π} {sent : Except Error Unit} {answer : Except Error Bytes}
      {v : Watched (ω × π)} (hready : Readied provider port w key s)
      (h : ∃ c : ConnString, c.text = scanText port)
      (hsent : ((SerialPort.send resetCommand resetSendTimeout).attempt : Op _ _).Yields
        (s.1, key) sent s')
      (hanswer : ((SerialPort.receive 10 resetReplyTimeout false).attempt : Op _ _).Yields
        { hardware := s' } answer v) :
      Takes provider port w (.probed h sent answer) (SerialPort.close v.hardware).1

/-- A port takes a course from any world. -/
theorem exists_takes (provider : PortProvider ω π) (port : String) (w : ω) :
    ∃ (course : Course port) (w' : ω), Takes provider port w course w' := by
  rcases ((provider.claim port).yields_or_fails w).symm with ⟨e, hclaim⟩ | ⟨key, hclaim⟩
  · exact ⟨_, _, .refused hclaim⟩
  let claimed : ω × π := ((provider.claim port w).state, key)
  rcases ((SerialPort.flush true).yields_or_fails claimed).symm with ⟨e, hflush⟩ | ⟨⟨⟩, hflush⟩
  · exact ⟨_, _, .jammed hclaim hflush⟩
  let flushed : ω × π := (SerialPort.flush true claimed).state
  rcases ((SerialPort.setSpeed (UInt32.ofNat defaultSpeed)).yields_or_fails flushed).symm with
    ⟨e, hspeed⟩ | ⟨⟨⟩, hspeed⟩
  · exact ⟨_, _, .untuned hclaim hflush hspeed⟩
  have hready : Readied provider port w key _ := ⟨_, _, hclaim, hflush, hspeed⟩
  -- whether there is a reader behind the port is asked only if it could be reported
  by_cases h : ∃ c : ConnString, c.text = scanText port
  · exact ⟨_, _, .probed hready h ⟨rfl, rfl⟩ ⟨rfl, rfl⟩⟩
  · exact ⟨_, _, .unnamed hready h⟩

/-! ## Runs at a port -/

section Tune

variable {bauds : UInt32} {key : π} {s : ω × π} {e : Error}

/-- Discarding old input and setting the speed. -/
theorem yields_tune (h : (SerialPort.flush true >>= fun _ => SerialPort.setSpeed bauds).Yields
    (w, key) () s) : (tune bauds key).Yields w key s.1 := by
  refine Act.yields_bind.mpr ⟨(.ok (), s), _, Act.yields_around.mpr ⟨h.1, h.2, rfl⟩, ?_⟩
  exact ⟨rfl, rfl⟩

theorem fails_tune (h : (SerialPort.flush true >>= fun _ => SerialPort.setSpeed bauds).Fails
    (w, key) e s) : (tune bauds key).Fails w e s.1 := by
  refine Act.fails_bind.mpr
    (.inr ⟨(.error e, s), _, Act.yields_around.mpr ⟨h.1, h.2, rfl⟩, ?_⟩)
  exact ⟨rfl, rfl⟩

end Tune

/-- The usual speed is within the range, so a port that is claimed is tuned. -/
theorem openPort_of_claimed {key : π} {w₁ : ω} (h : (provider.claim port).Yields w key w₁) :
    (openPort provider port defaultSpeed w).result =
        (tune (UInt32.ofNat defaultSpeed) key w₁).result ∧
      (openPort provider port defaultSpeed w).state =
        (tune (UInt32.ofNat defaultSpeed) key w₁).state := by
  have hrange : ¬ (defaultSpeed = 0 ∨ maxSpeed < defaultSpeed) := by decide
  unfold openPort
  rw [if_neg hrange, (Act.log_bind _ _ _ _ _).1, (Act.log_bind _ _ _ _ _).2,
    (Act.attempt_bind _ _ _).1, (Act.attempt_bind _ _ _).2, h.1, h.2]
  exact ⟨rfl, rfl⟩

theorem Readied.yields_openPort {key : π} {s : ω × π} (h : Readied provider port w key s) :
    (openPort provider port defaultSpeed).Yields w key s.1 := by
  obtain ⟨w₁, s₁, hclaim, hflush, hspeed⟩ := h
  have htune := yields_tune (Act.yields_bind.mpr ⟨_, _, hflush, hspeed⟩)
  obtain ⟨hresult, hstate⟩ := openPort_of_claimed hclaim
  exact ⟨hresult.trans htune.1, hstate.trans htune.2⟩

theorem fails_openPort_refused {e : Error} (h : (provider.claim port).Fails w e w') :
    (openPort provider port defaultSpeed).Fails w e w' := by
  have hrange : ¬ (defaultSpeed = 0 ∨ maxSpeed < defaultSpeed) := by decide
  unfold openPort
  rw [if_neg hrange, Act.Fails, (Act.log_bind _ _ _ _ _).1, (Act.log_bind _ _ _ _ _).2,
    (Act.attempt_bind _ _ _).1, (Act.attempt_bind _ _ _).2, h.1, h.2]
  exact ⟨rfl, rfl⟩

theorem fails_openPort_untuned {e : Error} {key : π} {w₁ : ω} {s : ω × π}
    (hclaim : (provider.claim port).Yields w key w₁)
    (h : (SerialPort.flush true >>= fun _ =>
      SerialPort.setSpeed (UInt32.ofNat defaultSpeed)).Fails (w₁, key) e s) :
    (openPort provider port defaultSpeed).Fails w e s.1 := by
  obtain ⟨hresult, hstate⟩ := openPort_of_claimed hclaim
  exact ⟨hresult.trans (fails_tune h).1, hstate.trans (fails_tune h).2⟩

section Probe

variable {σ : Type} [SerialPort σ] {l : Link σ} {sent : Except Error Unit}
  {answer : Except Error Bytes} {p : σ} {v : Watched σ}
  (hsent : ((SerialPort.send resetCommand resetSendTimeout).attempt : Op _ _).Yields
    l.line.hardware sent p)
  (hanswer : ((SerialPort.receive 10 resetReplyTimeout false).attempt : Op _ _).Yields
    ⟨p, l.line.signal⟩ answer v)
include hsent hanswer

/-- The answer decides on the reset, however sending it ended. -/
theorem reset_run :
    (Link.reset l).result.toBool = answersReset answer ∧ (Link.reset l).state = ⟨v⟩ := by
  obtain ⟨-, rfl⟩ := Act.yields_attempt.mp hsent
  have hsends : ((Link.onPort (SerialPort.send resetCommand resetSendTimeout)).ignoring :
      Op (Link σ) Unit).Yields l () ⟨⟨_, l.line.signal⟩⟩ := ⟨rfl, rfl⟩
  have hreads : ((Link.read 10 resetReplyTimeout).attempt : Op (Link σ) _).Yields
      ⟨⟨_, l.line.signal⟩⟩ answer ⟨v⟩ :=
    ⟨hanswer.1, congrArg Link.mk hanswer.2⟩
  unfold Link.reset
  rw [(hsends.bind _).1, (hsends.bind _).2, (hreads.bind _).1, (hreads.bind _).2]
  cases answer with
  | error e => exact ⟨rfl, rfl⟩
  | ok reply =>
      by_cases h : reply = noError
      · simp [h, answersReset, Except.toBool]
      · simp only [ne_eq, h, not_false_eq_true, if_true, answersReset, decide_false]
        exact ⟨rfl, rfl⟩

/-- The port is released behind the answer. -/
theorem yields_probe :
    (probe : Act Empty (Link σ) Bool).Yields l (answersReset answer) (Link.close ⟨v⟩) := by
  obtain ⟨hresult, hstate⟩ := reset_run hsent hanswer
  refine Act.yields_bind.mpr ⟨_, ⟨v⟩, Act.yields_attempt.mpr ⟨rfl, hstate⟩, ?_⟩
  exact ⟨congrArg Except.ok hresult, rfl⟩

end Probe

section Build

variable {c : ConnString}

theorem yields_build (hc : c.text = scanText port) :
    (buildPositional driverName [port, toString defaultSpeed]).Yields w c w :=
  ⟨buildPositional_eq_ok_iff.mpr hc, buildPositional_state _ _ _⟩

theorem fails_build (h : ¬ ∃ c : ConnString, c.text = scanText port) :
    ∃ e, (buildPositional driverName [port, toString defaultSpeed]).Fails w e w := by
  rcases (buildPositional driverName [port, toString defaultSpeed]).yields_or_fails w with
    ⟨c, hbuilt⟩ | ⟨e, hfails⟩
  · exact absurd ⟨c, buildPositional_eq_ok_iff.mp hbuilt.1⟩ h
  · exact ⟨e, hfails.1, buildPositional_state _ _ _⟩

end Build

section Scan

variable {key : π} {s : ω × π}

theorem scanPort_of_fails {e : Error} (h : (openPort provider port defaultSpeed).Fails w e w') :
    (scanPort provider port).Yields w none w' := by
  refine Act.yields_bind.mpr ⟨_, _, Act.yields_attempt.mpr h, ?_⟩
  exact ⟨rfl, rfl⟩

/-- A port without a connection string is closed. -/
theorem scanPort_of_unnamed (hready : Readied provider port w key s)
    (h : ¬ ∃ c : ConnString, c.text = scanText port) :
    (scanPort provider port).Yields w none (SerialPort.close (s.1, key)).1 := by
  obtain ⟨e, hrefused⟩ := fails_build h
  refine Act.yields_bind.mpr ⟨_, _, Act.yields_attempt.mpr hready.yields_openPort, ?_⟩
  refine Act.yields_bind.mpr ⟨_, _, Act.yields_attempt.mpr hrefused, ?_⟩
  exact ⟨rfl, rfl⟩

/-- Any other port is probed. -/
theorem scanPort_of_probed {c : ConnString} {sent : Except Error Unit}
    {answer : Except Error Bytes} {p : ω × π} {v : Watched (ω × π)}
    (hready : Readied provider port w key s) (hc : c.text = scanText port)
    (hsent : ((SerialPort.send resetCommand resetSendTimeout).attempt : Op _ _).Yields
      (s.1, key) sent p)
    (hanswer : ((SerialPort.receive 10 resetReplyTimeout false).attempt : Op _ _).Yields
      { hardware := p } answer v) :
    (scanPort provider port).Yields w (if answersReset answer then some c else none)
      (SerialPort.close v.hardware).1 := by
  have hprobe : (probe : Act Empty (Link (ω × π)) Bool).Yields (linkOver key s.1)
      (answersReset answer) (Link.close ⟨v⟩) := yields_probe hsent hanswer
  refine Act.yields_bind.mpr ⟨_, _, Act.yields_attempt.mpr hready.yields_openPort, ?_⟩
  refine Act.yields_bind.mpr ⟨_, _, Act.yields_attempt.mpr (yields_build hc), ?_⟩
  refine Act.yields_bind.mpr ⟨(.ok (answersReset answer), Link.close ⟨v⟩), _,
    Act.yields_around.mpr ⟨hprobe.1, hprobe.2, rfl⟩, ?_⟩
  cases answersReset answer <;> exact ⟨rfl, rfl⟩

/-- **A port is reported if a reader is behind it**, and is left as its course leaves it. -/
theorem Takes.yields_scanPort (h : Takes provider port w course w') :
    ∃ c?, (scanPort provider port).Yields w c? w' ∧
      c?.map text = if course.hit then some (scanText port) else none := by
  cases h with
  | refused h => exact ⟨none, scanPort_of_fails (fails_openPort_refused h), rfl⟩
  | jammed hclaim hflush =>
      have hfails := fails_openPort_untuned hclaim (hflush.bind _)
      exact ⟨none, scanPort_of_fails hfails, rfl⟩
  | untuned hclaim hflush hspeed =>
      have hfails := fails_openPort_untuned hclaim
        (Act.fails_bind.mpr (.inr ⟨_, _, hflush, hspeed⟩))
      exact ⟨none, scanPort_of_fails hfails, rfl⟩
  | unnamed hready h => exact ⟨none, scanPort_of_unnamed hready h, rfl⟩
  | @probed _ _ _ _ answer _ hready h hsent hanswer =>
      obtain ⟨c, hc⟩ := h
      refine ⟨_, scanPort_of_probed hready hc hsent hanswer, ?_⟩
      cases hanswered : answersReset answer <;> simp [Course.hit, hanswered, hc]

theorem Takes.yields_none (h : Takes provider port w course w') (hhit : course.hit = false) :
    (scanPort provider port).Yields w none w' := by
  obtain ⟨c?, hyields, htext⟩ := h.yields_scanPort
  rw [hhit, if_neg Bool.false_ne_true, Option.map_eq_none_iff] at htext
  exact htext ▸ hyields

theorem Takes.yields_some (h : Takes provider port w course w') (hhit : course.hit = true) :
    ∃ c, (scanPort provider port).Yields w (some c) w' ∧ c.text = scanText port := by
  obtain ⟨c?, hyields, htext⟩ := h.yields_scanPort
  rw [hhit, if_pos rfl, Option.map_eq_some_iff] at htext
  obtain ⟨c, rfl, hc⟩ := htext
  exact ⟨c, hyields, hc⟩

end Scan

/-! ## Notes of a port -/

section Recorded

variable {key : π} {s : ω × π} (notes : List (String × LineCall))

omit [SerialPort (ω × π)] in
/-- Notes are added one after the other. -/
theorem append_map_cons (call : LineCall) (calls : List LineCall) :
    notes ++ (call :: calls).map (port, ·) = (notes ++ [(port, call)]) ++ calls.map (port, ·) := by
  rw [List.map_cons, List.append_cons]

theorem Readied.recorded (h : Readied provider port w key s) :
    Readied provider.recorded port ⟨w, notes⟩ (port, key)
      (⟨s.1, notes ++ Course.opening.map (port, ·)⟩, (port, s.2)) := by
  obtain ⟨w₁, s₁, hclaim, hflush, hspeed⟩ := h
  rw [Course.opening, append_map_cons, append_map_cons]
  exact ⟨_, _, PortProvider.recorded_yields notes hclaim, Noted.recordingNamed_run _ hflush,
    Noted.recordingNamed_run _ hspeed⟩

/-- **A host that takes notes is the same host**, and notes the calls of the course. -/
theorem Takes.recorded (h : Takes provider port w course w') :
    Takes provider.recorded port ⟨w, notes⟩ course
      ⟨w', notes ++ course.calls.map (port, ·)⟩ := by
  cases h with
  | refused h => exact .refused (PortProvider.recorded_fails notes h)
  | jammed hclaim hflush =>
      rw [Course.calls, append_map_cons]
      exact .jammed (PortProvider.recorded_yields notes hclaim) (Noted.recordingNamed_run _ hflush)
  | untuned hclaim hflush hspeed =>
      rw [Course.calls, append_map_cons, append_map_cons]
      exact .untuned (PortProvider.recorded_yields notes hclaim) (Noted.recordingNamed_run _ hflush)
        (Noted.recordingNamed_run _ hspeed)
  | @unnamed key s hready h =>
      rw [Course.calls, List.map_append, ← List.append_assoc]
      exact .unnamed (hready.recorded notes) h
  | @probed key s p sent answer v hready h hsent hanswer =>
      rw [Course.calls, List.map_append, ← List.append_assoc, append_map_cons, append_map_cons]
      exact .probed (hready.recorded notes) h
        (Act.yields_attempt.mpr (Noted.recordingNamed_run _ (Act.yields_attempt.mp hsent)))
        (Act.yields_attempt.mpr (Noted.receive_run _ (Act.yields_attempt.mp hanswer)))

end Recorded

/-! ## Scans -/

/-- A port that is tried, and how that goes. -/
structure Trial where
  port : String
  course : Course port

namespace Trial

/-- A reader is behind the port, and can be reported. -/
def hit (t : Trial) : Bool := t.course.hit

/-- The calls of the port, under its name. -/
def notes (t : Trial) : List (String × LineCall) := t.course.calls.map (t.port, ·)

end Trial

/-- From a world ports are tried one after the other, which leaves that world. -/
inductive Sweeps (provider : PortProvider ω π) : ω → List Trial → ω → Prop where
  | done (w : ω) : Sweeps provider w [] w
  | next {w w₁ w' : ω} {t : Trial} {ts : List Trial} (h : Takes provider t.port w t.course w₁)
      (hrest : Sweeps provider w₁ ts w') : Sweeps provider w (t :: ts) w'

theorem exists_sweeps (provider : PortProvider ω π) (names : List String) (w : ω) :
    ∃ (trials : List Trial) (w' : ω),
      Sweeps provider w trials w' ∧ trials.map Trial.port = names := by
  induction names generalizing w with
  | nil => exact ⟨[], w, .done w, rfl⟩
  | cons port names ih =>
      obtain ⟨course, w₁, htakes⟩ := exists_takes provider port w
      obtain ⟨trials, w', hrest, hnames⟩ := ih w₁
      exact ⟨⟨port, course⟩ :: trials, w', .next htakes hrest, congrArg (port :: ·) hnames⟩

theorem Sweeps.of_append {trials rest : List Trial} (h : Sweeps provider w (trials ++ rest) w') :
    ∃ w₁, Sweeps provider w trials w₁ := by
  induction trials generalizing w with
  | nil => exact ⟨w, .done w⟩
  | cons t trials ih =>
      cases h with
      | next htakes hrest =>
          obtain ⟨w₁, hfront⟩ := ih hrest
          exact ⟨w₁, .next htakes hfront⟩

/-- A host that takes notes notes the calls of all that is tried. -/
theorem Sweeps.recorded {trials : List Trial} (h : Sweeps provider w trials w')
    (notes : List (String × LineCall)) :
    Sweeps provider.recorded ⟨w, notes⟩ trials ⟨w', notes ++ trials.flatMap Trial.notes⟩ := by
  induction h generalizing notes with
  | done w =>
      rw [List.flatMap_nil, List.append_nil]
      exact .done _
  | next htakes _ ih =>
      rw [List.flatMap_cons, ← List.append_assoc]
      exact .next (htakes.recorded notes) (ih _)

/-- What is tried of these ports until so many readers are found. -/
def tried : Nat → List Trial → List Trial
  | 0, _ | _, [] => []
  | room + 1, t :: ts => t :: tried (if t.hit then room else room + 1) ts

/-- The first ports are tried, up to the last reader that was asked for. -/
theorem tried_cases (room : Nat) (trials : List Trial) :
    ∃ rest, trials = tried room trials ++ rest ∧
      (rest = [] ∨ (tried room trials).countP Trial.hit = room) ∧
        ∀ before t after, tried room trials = before ++ t :: after →
          before.countP Trial.hit < room := by
  induction trials generalizing room with
  | nil => cases room <;> exact ⟨[], rfl, .inl rfl, by simp [tried]⟩
  | cons t ts ih =>
      cases room with
      | zero => exact ⟨t :: ts, rfl, .inr rfl, by simp [tried]⟩
      | succ room =>
          obtain ⟨rest, hsplit, hends, hbefore⟩ := ih (if t.hit then room else room + 1)
          refine ⟨rest, congrArg (t :: ·) hsplit, ?_, fun before t' after h => ?_⟩
          · refine hends.imp_right fun hcount => ?_
            rw [tried, List.countP_cons, hcount]
            cases t.hit <;> rfl
          · cases before with
            | nil => exact Nat.succ_pos room
            | cons t₁ before =>
                -- the first port takes up room if it is a hit, and counts as one of those before
                obtain ⟨rfl, hrest⟩ := List.cons.inj h
                have := hbefore before t' after hrest
                rw [List.countP_cons]
                split_ifs at * <;> omega

/-- A scan reports the readers that are found, some at most. -/
theorem Sweeps.yields_scanPorts {room : Nat} {trials : List Trial}
    (h : Sweeps provider w (tried room trials) w') :
    ∃ found, (scanPorts provider room (trials.map Trial.port)).Yields w found w' ∧
      found.map text = ((trials.filter Trial.hit).map (scanText ·.port)).take room := by
  -- on the trials; a hit takes a place, and a miss leaves the room as it is
  induction trials generalizing room w with
  | nil =>
      have hnone : tried room [] = [] := by cases room <;> rfl
      rw [hnone] at h
      cases h
      cases room <;> exact ⟨[], ⟨rfl, rfl⟩, rfl⟩
  | cons t ts ih =>
      cases room with
      | zero =>
          cases h
          exact ⟨[], ⟨rfl, rfl⟩, rfl⟩
      | succ room =>
          cases h with
          | next htakes hrest =>
              cases hhit : t.hit with
              | false =>
                  rw [hhit, if_neg Bool.false_ne_true] at hrest
                  obtain ⟨found, hfound, htexts⟩ := ih hrest
                  have hmiss : ¬ t.hit = true := Bool.eq_false_iff.mp hhit
                  refine ⟨found, Act.yields_bind.mpr ⟨_, _, htakes.yields_none hhit, hfound⟩, ?_⟩
                  rw [List.filter_cons_of_neg hmiss, htexts]
              | true =>
                  rw [hhit, if_pos rfl] at hrest
                  obtain ⟨found, hfound, htexts⟩ := ih hrest
                  obtain ⟨c, hyields, hc⟩ := htakes.yields_some hhit
                  refine ⟨c :: found, Act.yields_bind.mpr ⟨_, _, hyields,
                    Act.yields_bind.mpr ⟨_, _, hfound, rfl, rfl⟩⟩, ?_⟩
                  rw [List.filter_cons_of_pos hhit, List.map_cons, List.map_cons,
                    List.take_succ_cons, hc, htexts]

theorem scanText_eq (port : String) :
    scanText port = "arygon" ++ ":" ++ port ++ ":" ++ "9600" := by
  have hspeed : toString defaultSpeed = "9600" := by decide
  rw [scanText, hspeed]
  rfl

/-- **A scan tries the first ports, up to the last reader that was asked for**, and reports the
ports behind which a reader answers, in their order.  The calls that it makes are those of the ports
that are tried, and each port that it makes ready is closed once. -/
theorem scan_tries (provider : PortProvider ω π) (w : ω) :
    ∃ (trials : List Trial) (w' : ω), Sweeps provider w trials w' ∧
      trials.map Trial.port = provider.ports w ∧ ∀ max,
        let plain := (driver provider).scan max w
        let seen := (driver provider.recorded).scan max ⟨w, []⟩
        ∃ found asked rest, plain.result = .ok found ∧
          found.map text = ((trials.filter Trial.hit).map fun t =>
            "arygon" ++ ":" ++ t.port ++ ":" ++ "9600").take max ∧
          (seen.result = plain.result ∧ seen.state = ⟨plain.state, asked.flatMap Trial.notes⟩) ∧
          trials = asked ++ rest ∧ (rest = [] ∨ asked.countP Trial.hit = max) ∧
          (max = 0 → asked = []) ∧
          (∀ before t after, asked = before ++ t :: after → before.countP Trial.hit < max) ∧
          ∀ t ∈ asked, t.course.calls.count .close = if t.course.ready then 1 else 0 := by
  obtain ⟨trials, w', hsweeps, hports⟩ := exists_sweeps provider (provider.ports w) w
  refine ⟨trials, w', hsweeps, hports, fun max => ?_⟩
  intro plain seen
  obtain ⟨rest, hsplit, hends, hbefore⟩ := tried_cases max trials
  rw [hsplit] at hsweeps
  -- the host and the one that takes notes try the same ports, which take the same courses
  obtain ⟨w₁, hasked⟩ := hsweeps.of_append
  obtain ⟨found, hplain, htexts⟩ := hasked.yields_scanPorts
  obtain ⟨found', hseen, htexts'⟩ := (hasked.recorded []).yields_scanPorts
  obtain rfl : found' = found :=
    (List.map_injective_iff.mpr fun _ _ => text_inj.mp) (htexts'.trans htexts.symm)
  rw [hports] at hplain hseen
  have hresult : plain.result = .ok found' := (Act.get_bind _ _).1.trans hplain.1
  have hstate : plain.state = w₁ := (Act.get_bind _ _).2.trans hplain.2
  have hseenResult : seen.result = .ok found' := (Act.get_bind _ _).1.trans hseen.1
  have hseenState : seen.state = ⟨w₁, (tried max trials).flatMap Trial.notes⟩ :=
    (Act.get_bind _ _).2.trans hseen.2
  simp only [scanText_eq] at htexts
  exact ⟨found', _, rest, hresult, htexts, ⟨hseenResult.trans hresult.symm, hstate ▸ hseenState⟩,
    hsplit, hends, fun hnone => by rw [hnone, tried], hbefore, fun t _ => t.course.count_close⟩

end Arygon

end NearField
