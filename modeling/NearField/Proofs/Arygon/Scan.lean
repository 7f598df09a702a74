import NearField.Arygon.Driver
import NearField.Proofs.Arygon.Steps
import NearField.Proofs.ConnString.Positional
import NearField.Proofs.Noted
import NearField.Proofs.Pn53x.Exchange

/-!
# Readers found behind serial ports

A scan reports ports behind which a reader answers, each by a string with the port's name and the
usual speed behind the driver's name (`mem_scan`).  When such a string is claimed, the port that
is opened is the one whose name stands in front of the first colon.  So the port that was found is
opened, at the usual speed, exactly if its name is not empty and has no colon in it
(`opened_claim_iff`).

`PortProvider.noted` notes the ports that are claimed and the speeds that are set.
-/

namespace NearField

/-- What opening a port asks of a host. -/
inductive PortCall where
  /-- A port is claimed by name. -/
  | claim (name : String)
  /-- The speed of a claimed port is set. -/
  | setSpeed (bauds : UInt32)
  deriving DecidableEq, Repr

namespace Noted

variable {ν ω π α : Type}

/-- Runs an action of a port in the world itself. -/
def onPart (a : Op (ω × π) α) : Op (Noted ν ω × π) α := a.zoom part put

instance [SerialPort (ω × π)] : SerialPort (Noted PortCall ω × π) where
  setSpeed bauds := do
    modify fun s => (note (.setSpeed bauds) s.1, s.2)
    onPart (SerialPort.setSpeed bauds)
  flush wait := onPart (SerialPort.flush wait)
  send bytes t := onPart (SerialPort.send bytes t)
  receive n t watched := (SerialPort.receive n t watched).zoom (Watched.map part) fun v w =>
    ⟨put v.hardware w.hardware, v.signal⟩
  close s := put (SerialPort.close (part s)) s
  clock s := SerialPort.clock (part s)

end Noted

/-- A host that notes the ports that are claimed. -/
def PortProvider.noted {ω π : Type} (provider : PortProvider ω π) :
    PortProvider (Noted PortCall ω) π where
  ports n := provider.ports n.world
  claim name := Noted.noting (.claim name) (provider.claim name)

namespace Arygon

open ConnString

variable {ω π : Type} [SerialPort (ω × π)] {w w' : ω} {c : ConnString} {port : String}

/-! ## Reports -/

omit [SerialPort (ω × π)] in
/-- The string that a scan reports for a port. -/
def scanText (port : String) : String :=
  positionalText driverName [port, toString defaultSpeed]

theorem text_of_scanPort {provider : PortProvider ω π}
    (h : (scanPort provider port).Yields w (some c) w') : c.text = scanText port := by
  obtain ⟨opened, w₁, -, hrest⟩ := Act.yields_bind.mp h
  cases opened with
  | error e => simp at hrest
  | ok key =>
      obtain ⟨built, w₂, hbuilt, hrest⟩ := Act.yields_bind.mp hrest
      cases built with
      | error e =>
          obtain ⟨_, _, -, hrest⟩ := Act.yields_bind.mp hrest
          obtain ⟨_, _, -, hrest⟩ := Act.yields_bind.mp hrest
          simp at hrest
      | ok c' =>
          have htext := buildPositional_eq_ok_iff.mp (Act.yields_attempt.mp hbuilt).1
          obtain ⟨answer, w₃, -, hrest⟩ := Act.yields_bind.mp hrest
          split at hrest
          · obtain rfl : c' = c := Option.some.inj (Act.yields_pure.mp hrest).1
            exact htext
          · simp at hrest

theorem mem_scanPorts {provider : PortProvider ω π} {room : Nat} {names : List String}
    {found : List ConnString} (h : (scanPorts provider room names).Yields w found w')
    (hc : c ∈ found) : ∃ port ∈ names, c.text = scanText port := by
  induction names generalizing room found w w' with
  | nil => cases room <;> simp_all [scanPorts]
  | cons name names ih =>
      cases room with
      | zero => simp_all [scanPorts]
      | succ room =>
          obtain ⟨listed, w₁, hlisted, hrest⟩ := Act.yields_bind.mp h
          cases listed with
          | none =>
              obtain ⟨port, hport, htext⟩ := ih hrest hc
              exact ⟨port, List.mem_cons_of_mem _ hport, htext⟩
          | some c' =>
              obtain ⟨others, w₂, hothers, hfound⟩ := Act.yields_bind.mp hrest
              rw [← (Act.yields_pure.mp hfound).1, List.mem_cons] at hc
              rcases hc with rfl | hc
              · exact ⟨name, List.mem_cons_self, text_of_scanPort hlisted⟩
              · obtain ⟨port, hport, htext⟩ := ih hothers hc
                exact ⟨port, List.mem_cons_of_mem _ hport, htext⟩

/-- A scan reports ports of the host by their names. -/
theorem mem_scan {provider : PortProvider ω π} {max : Nat} {found : List ConnString}
    (h : ((driver provider).scan max).Yields w found w') (hc : c ∈ found) :
    ∃ port ∈ provider.ports w, c.text = scanText port := by
  obtain ⟨_, _, hget, hscan⟩ := Act.yields_bind.mp h
  obtain ⟨rfl, rfl⟩ := Act.yields_get.mp hget
  exact mem_scanPorts hscan hc

/-! ## Addresses -/

section Address

variable {σ : Type}

/-- Without a front no port is asked for. -/
theorem address_of_front_empty (hc : c.text = scanText port) (hport : front port = "") :
    (address c : Op σ (String × Nat)) = throw .invalidArgument := by
  unfold address
  rw [hc, scanText, decode_of_front_empty (by decide) (by decide) hport]

/-- Only the front of a name is asked for. -/
theorem fst_address (hc : c.text = scanText port) {s s' : σ} {a : String × Nat}
    (h : (address c).Yields s a s') : a.1 = front port ∧ front port ≠ "" := by
  by_cases hport : front port = ""
  · rw [address_of_front_empty hc hport] at h
    exact absurd h Act.not_yields_throw
  · unfold address at h
    rw [hc, scanText] at h
    rcases @decode_front driverName "" port [toString defaultSpeed] (by decide) (by decide)
      hport with hone | ⟨speed, htwo⟩
    · simp only [hone, Act.yields_pure] at h
      exact ⟨h.1 ▸ rfl, hport⟩
    · simp only [htwo] at h
      cases hspeed : parseSpeed? speed with
      | none => simp [hspeed, Act.yields_bind] at h
      | some n =>
          simp only [hspeed, Act.yields_pure] at h
          exact ⟨h.1 ▸ rfl, hport⟩

/-- Reading an address changes nothing. -/
theorem state_address (c : ConnString) (s : σ) : (address c s).state = s := by
  unfold address
  cases decode c.text driverName "" with
  | foreign | driver | one _ => rfl
  | two _ speed =>
      cases h : parseSpeed? speed with
      | none | some _ => simp only [h]; rfl

/-- A plain name is asked for, at the usual speed. -/
theorem address_of_plain (hc : c.text = scanText port) (hport : ':' ∉ port.toList)
    (hne : port ≠ "") : (address c : Op σ (String × Nat)) = pure (port, defaultSpeed) := by
  have hdecode : decode c.text driverName "" = .two port (toString defaultSpeed) := by
    rw [hc, scanText]
    exact decode_two (by decide) (by decide) hport hne (by decide) (by decide)
  have hspeed : parseSpeed? (toString defaultSpeed) = some defaultSpeed := by decide
  unfold address
  simp only [hdecode, hspeed]

end Address

/-! ## Claims -/

section Claims

variable {l : Link (Noted PortCall ω × π)}

/-- The notes on the world below a link. -/
def notesOf (l : Link (Noted PortCall ω × π)) : List PortCall := l.line.hardware.1.notes

/-- No call but the one that sets the speed is noted. -/
theorem steps_notes : Link.Steps (InvImage Eq (notesOf (ω := ω) (π := π))) (fun _ => True)
    fun _ => True where
  flush _ := ⟨rfl, fun _ _ => trivial⟩
  send _ _ _ := ⟨rfl, fun _ _ => trivial⟩
  read _ _ _ _ := ⟨rfl, fun _ _ => trivial⟩
  own _ := trivial

omit [SerialPort (ω × π)] in
theorem keeps_notes_onLink {α : Type} {a : Op (Link (Noted PortCall ω × π)) α}
    (ha : Act.Leads (InvImage Eq notesOf) (fun _ => True) a) :
    Act.Keeps (fun c => notesOf c.link) (Pn53x.Chip.onLink a) :=
  fun c => ((ha c.link).1).symm

theorem keeps_notes_identify : Act.Keeps (fun c => notesOf c.link)
    (Pn53x.Chip.identify : Op (Pn53x.Chip (Link (Noted PortCall ω × π))) Unit) := by
  refine .bind (.bind Act.keeps_get fun c => fun c => ?_) fun reply => ?_
  · rw [Pn53x.Chip.link_transceive]
    have hcarry (t : Timeout) : Act.Leads (InvImage Eq notesOf) (fun _ => True)
        (Pn53x.carry Pn53x.getFirmwareVersion [] t : Op (Link (Noted PortCall ω × π)) Bytes) :=
      (Link.leads_send steps_notes trivial _).bind fun _ =>
        Link.leads_receiveWithin steps_notes trivial trivial
          (fun _ _ => ⟨rfl, fun _ _ => trivial⟩) trivial _ _ _
    exact ((hcarry _ c.link).1).symm
  · cases Pn53x.Chip.identity? reply with
    | none => exact .bind (Act.keeps_log _ _ _) fun _ => Act.keeps_throw _
    | some _ => exact .bind (Act.keeps_log _ _ _) fun _ => Act.keeps_modify fun _ => rfl

/-- Nothing is noted while a reader is made ready. -/
theorem keeps_notes_prepare (port : String) : Act.Keeps (fun c => notesOf c.link)
    (prepare port : Op (Pn53x.Chip (Link (Noted PortCall ω × π))) String) := by
  refine .bind (keeps_notes_onLink (Link.leads_reset steps_notes trivial)).attempt ?_
  rintro (e | _)
  · -- the rest is left out behind the failure
    refine .bind (Act.keeps_modify fun _ => ?_) fun _ _ => ?_
    · rfl
    · rfl
  · refine .bind (keeps_notes_onLink (Link.leads_firmware steps_notes trivial)) fun version => ?_
    refine .bind (Act.keeps_modify fun _ => rfl) fun _ => .bind keeps_notes_identify.attempt ?_
    rintro (e | _)
    · exact .bind (Act.keeps_log _ _ _) fun _ => Act.keeps_pure _
    · exact Act.keeps_pure _

/-- How opening a port may end, and what is noted of it: the port is claimed by name, and its
speed is set unless that fails. -/
inductive Opened {α : Type} (port : String) (bauds : UInt32) :
    Except Error α → List PortCall → Prop where
  | refused (e : Error) : Opened port bauds (.error e) [.claim port]
  | ready (r : Except Error α) : Opened port bauds r [.claim port, .setSpeed bauds]

theorem Opened.front {α : Type} {bauds : UInt32} {r : Except Error α} {notes : List PortCall}
    (h : Opened port bauds r notes) : ∃ rest, notes = .claim port :: rest := by
  cases h <;> exact ⟨_, rfl⟩

/-- A run that fails where opening failed ends as opening may. -/
theorem Opened.after {α β : Type} {bauds : UInt32} {r : Except Error α} {r' : Except Error β}
    {notes : List PortCall} (h : Opened port bauds r notes)
    (hfailed : ∀ e, r = .error e → r' = .error e) : Opened port bauds r' notes := by
  cases h with
  | refused e =>
      rw [hfailed e rfl]
      exact .refused e
  | ready => exact .ready r'

/-- A claimed port is handed out once old input is discarded and the speed is set. -/
def tune {ω : Type} [SerialPort (ω × π)] (bauds : UInt32) (key : π) : Op ω π := do
  let (ready, _, _) ← Act.around (fun w => (w, key)) Prod.fst do
    SerialPort.flush true
    SerialPort.setSpeed bauds
  Act.ofExcept ready
  return key

/-- The speed is set unless old input can not be discarded. -/
theorem tune_run (bauds : UInt32) (key : π) (n : Noted PortCall ω) :
    (∃ e, (tune bauds key n).result = .error e ∧ (tune bauds key n).state.notes = n.notes) ∨
      (tune bauds key n).state.notes = n.notes ++ [.setSpeed bauds] := by
  let work : Op (Noted PortCall ω × π) Unit := do
    SerialPort.flush true
    SerialPort.setSpeed bauds
  let handOut (ready : Except Error Unit) : Op (Noted PortCall ω) π := do
    Act.ofExcept ready
    return key
  have hresult : (tune bauds key n).result =
      (handOut (work (n, key)).result (work (n, key)).state.1).result := rfl
  have hkeeps (ready : Except Error Unit) : Act.Keeps Noted.notes (handOut ready) :=
    .bind (Act.keeps_ofExcept ready) fun _ => Act.keeps_pure key
  have hstate : (tune bauds key n).state.notes = (work (n, key)).state.1.notes := hkeeps _ _
  rw [hresult, hstate]
  rcases (SerialPort.flush true).yields_or_fails (n, key) with ⟨x, h⟩ | ⟨e, h⟩
  · rw [(h.bind fun _ => SerialPort.setSpeed bauds).2]
    exact .inr rfl
  · obtain ⟨hfailed, hkept⟩ := h.bind fun _ => SerialPort.setSpeed bauds
    rw [hfailed, hkept]
    exact .inl ⟨e, rfl, rfl⟩

variable (provider : PortProvider ω π) {speed : Nat}

/-- Opening a port within the range of speeds. -/
theorem opened_openPort (hspeed : 0 < speed ∧ speed ≤ maxSpeed) (w : ω) :
    Opened port (UInt32.ofNat speed) (openPort provider.noted port speed ⟨w, []⟩).result
      (openPort provider.noted port speed ⟨w, []⟩).state.notes := by
  have hrange : ¬ (speed = 0 ∨ maxSpeed < speed) := by omega
  unfold openPort
  rw [if_neg hrange, (Act.log_bind _ _ _ _ _).1, (Act.log_bind _ _ _ _ _).2,
    (Act.attempt_bind _ _ _).1, (Act.attempt_bind _ _ _).2]
  have hclaimed : (provider.noted.claim port ⟨w, []⟩).result = (provider.claim port w).result := rfl
  rw [hclaimed]
  cases (provider.claim port w).result with
  | error e => exact .refused e
  | ok key =>
      let n : Noted PortCall ω := ⟨(provider.claim port w).state, [.claim port]⟩
      change Opened port (UInt32.ofNat speed) (tune (UInt32.ofNat speed) key n).result
        (tune (UInt32.ofNat speed) key n).state.notes
      rcases tune_run (UInt32.ofNat speed) key n with ⟨e, hfailed, hnotes⟩ | hnotes
      · rw [hfailed, hnotes]
        exact .refused e
      · rw [hnotes]
        exact .ready _

/-- Outside the range of speeds nothing is opened. -/
theorem notes_openPort (h : ¬ (0 < speed ∧ speed ≤ maxSpeed)) (n : Noted PortCall ω) :
    (openPort provider.noted port speed n).state.notes = n.notes := by
  have hrange : speed = 0 ∨ maxSpeed < speed := by omega
  unfold openPort
  rw [if_pos hrange]
  rfl

/-- Makes ready what is behind a port that is open. -/
def attach {ω : Type} [SerialPort (ω × π)] (port : String) (key : π) :
    Op ω (Claim (Pn53x.Chip (Link π))) := do
  let (name, chip) ←
    Act.around (fun w => { link := linkOver key w }) (worldOf ·.link) (prepare port)
  return ⟨← Act.ofExcept name, chip.mapLink handleOf⟩

theorem keeps_notes_attach (port : String) (key : π) :
    Act.Keeps Noted.notes (attach port key : Op (Noted PortCall ω) _) := by
  refine .bind (fun n => ?_) fun p => .bind (Act.keeps_ofExcept _) fun _ => Act.keeps_pure _
  exact keeps_notes_prepare port { link := linkOver key n }

/-- What follows once a port is open is not noted. -/
theorem claim_run {n : Noted PortCall ω} (h : (address c).Yields n (port, speed) n) :
    (claim provider.noted c n).state.notes = (openPort provider.noted port speed n).state.notes ∧
      ∀ e, (openPort provider.noted port speed n).result = .error e →
        (claim provider.noted c n).result = .error e := by
  let onward : Op (Noted PortCall ω) (Claim (Pn53x.Chip (Link π))) :=
    openPort provider.noted port speed >>= attach port
  obtain ⟨hresult, hstate⟩ : (claim provider.noted c n).result = (onward n).result ∧
      (claim provider.noted c n).state = (onward n).state := h.bind _
  rw [hresult, hstate]
  refine ⟨Act.keeps_after (keeps_notes_attach port) n, fun e he => ?_⟩
  exact (Act.Fails.bind ⟨he, rfl⟩ _).1

/-- If a port is claimed, it is the front one. -/
theorem claim_front (hc : c.text = scanText port) (w : ω) :
    (claim provider.noted c ⟨w, []⟩).state.notes = [] ∨
      front port ≠ "" ∧
        ∃ rest, (claim provider.noted c ⟨w, []⟩).state.notes = .claim (front port) :: rest := by
  rcases (address c).yields_or_fails (⟨w, []⟩ : Noted PortCall ω) with ⟨⟨name, speed⟩, h⟩ | ⟨e, h⟩
  · obtain ⟨rfl, hne⟩ := fst_address hc h
    rw [state_address] at h
    rw [(claim_run provider h).1]
    by_cases hspeed : 0 < speed ∧ speed ≤ maxSpeed
    · exact .inr ⟨hne, (opened_openPort provider hspeed w).front⟩
    · exact .inl (notes_openPort provider hspeed _)
  · have hstate : (claim provider.noted c ⟨w, []⟩).state = _ := (h.bind _).2
    rw [hstate, state_address]
    exact .inl rfl

/-- **The port that was found is opened** at the usual speed exactly if its name is not empty and
has no colon in it. -/
theorem opened_claim_iff (hc : c.text = scanText port) (w : ω) :
    Opened port (UInt32.ofNat defaultSpeed) (claim provider.noted c ⟨w, []⟩).result
      (claim provider.noted c ⟨w, []⟩).state.notes ↔ port ≠ "" ∧ ':' ∉ port.toList := by
  refine ⟨fun h => ?_, fun ⟨hne, hplain⟩ => ?_⟩
  · obtain ⟨rest, hnotes⟩ := h.front
    rcases claim_front provider hc w with hnone | ⟨hne, rest', hfront⟩
    · rw [hnone] at hnotes
      cases hnotes
    · have hsame : front port = port := by
        simpa using (List.cons.inj (hfront.symm.trans hnotes)).1
      exact ⟨hsame ▸ hne, front_eq_self_iff.mp hsame⟩
  · have haddress : (address c).Yields (⟨w, []⟩ : Noted PortCall ω) (port, defaultSpeed)
        ⟨w, []⟩ := by
      rw [address_of_plain hc hplain hne]
      exact ⟨rfl, rfl⟩
    obtain ⟨hnotes, hfailed⟩ := claim_run provider haddress
    rw [hnotes]
    exact (opened_openPort provider (by decide) w).after hfailed

end Claims

end Arygon

end NearField
