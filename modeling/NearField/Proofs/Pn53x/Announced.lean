import NearField.Pn53x.Emulation
import NearField.Proofs.Checked
import NearField.Proofs.Frame.Reply
import NearField.Proofs.Pn53x.Polling

/-!
# Commands that announce their fields

Two commands have fields that need not be there.  The command that attributes a peer has a byte
whose bits announce which of three fields follow it, and the command that puts a disguise on counts
its general bytes, and at its end historical bytes on every chip but one.  A field that is written
without being announced, or the other way around, would shift all that follow it.  But a reader that
goes by the bits and the counts alone finds in the first command what was asked for
(`announces_jumpForDep`) and in the second the disguise (`Disguise.parse?_command`).

A chip is handed such a command once, or the arguments are refused before it is handed anything
(`sent_announced`).
-/

namespace NearField.Pn53x

/-! ## Fields -/

variable {α : Type} {n : Nat}

/-- Reads a field of `n` bytes, and gives what follows it. -/
def field? (n : Nat) (bytes : Bytes) : Option (Vector UInt8 n × Bytes) :=
  (vector? n (bytes.take n)).map (·, bytes.drop n)

theorem field?_append (v : Vector UInt8 n) (rest : Bytes) :
    field? n (v.toList ++ rest) = some (v, rest) := by
  have hv : vector? n v.toList = some v := vector?_eq_some.mpr ⟨v.length_toList, rfl⟩
  rw [field?, List.take_left' v.length_toList, List.drop_left' v.length_toList, hv]
  rfl

/-- Reads a byte and as many bytes as it counts, and gives what follows them. -/
def counted? : Bytes → Option (Bytes × Bytes)
  | [] => none
  | count :: bytes =>
    if count.toNat ≤ bytes.length then some (bytes.splitAt count.toNat) else none

theorem counted?_append {field : Bytes} (h : field.length < 256) (rest : Bytes) :
    counted? (UInt8.ofNat field.length :: (field ++ rest)) = some (field, rest) := by
  have hcount : (UInt8.ofNat field.length).toNat = field.length := UInt8.toNat_ofNat_of_lt' h
  rw [counted?, hcount, if_pos (by simp), List.splitAt_eq, List.take_left, List.drop_left]

/-- Reads a field if it is announced. -/
def announced? (announced : Bool) (read : Bytes → Option (α × Bytes)) (bytes : Bytes) :
    Option (Option α × Bytes) :=
  if announced then (read bytes).map (Prod.map some id) else some (none, bytes)

/-- **A field that is announced if it is there** is read back, with what follows it. -/
theorem announced?_append {read : Bytes → Option (α × Bytes)} {write : α → Bytes} {x? : Option α}
    {rest : Bytes} (h : ∀ x ∈ x?, read (write x ++ rest) = some (x, rest)) :
    announced? x?.isSome read (x?.elim [] write ++ rest) = some (x?, rest) := by
  cases x? with
  | none => rfl
  | some x =>
      rw [announced?, Option.isSome_some, if_pos rfl, Option.elim_some, h x rfl]
      rfl

theorem announced?_field (v? : Option (Vector UInt8 n)) (rest : Bytes) :
    announced? v?.isSome (field? n) (v?.elim [] Vector.toList ++ rest) = some (v?, rest) :=
  announced?_append fun v _ => field?_append v rest

namespace Chip

variable {mode : DepMode} {rate : BaudRate} {initiator : Option DepInfo}

/-! ## Attributing a peer -/

/-- The way of sharing the link that a byte stands for. -/
def depModeOf? : UInt8 → Option DepMode
  | 0x00 => some .passive
  | 0x01 => some .active
  | _ => none

/-- The speed between peers that a byte stands for. -/
def depRateOf? : UInt8 → Option BaudRate
  | 0x00 => some .kbps106
  | 0x01 => some .kbps212
  | 0x02 => some .kbps424
  | _ => none

theorem depModeOf?_eq {modeByte : UInt8} (h : depModeByte? mode = some modeByte) :
    depModeOf? modeByte = some mode := by
  cases mode <;> cases h <;> rfl

theorem depRateOf?_eq {rateByte : UInt8} (h : depBaudByte? rate = some rateByte) :
    depRateOf? rateByte = some rate := by
  cases rate <;> cases h <;> rfl

/-- What the command that attributes a peer asks for. -/
structure Attribution where
  mode : DepMode
  rate : BaudRate
  polling? : Option (Vector UInt8 5)
  identity? : Option (Vector UInt8 10)
  general? : Option Bytes
  deriving DecidableEq

namespace Attribution

/-- What the arguments ask for: passive mode polls above the lowest speed, an initiator tells its
identifier, and its general bytes if it has any. -/
def of (mode : DepMode) (rate : BaudRate) (initiator : Option DepInfo) : Attribution where
  mode
  rate
  polling? :=
    if mode = .passive ∧ rate ≠ .kbps106 then some #v[0x00, 0xFF, 0xFF, 0x00, 0x0F] else none
  identity? := initiator.map DepInfo.nfcid3
  general? := (initiator.map DepInfo.generalBytes).filter (!·.isEmpty)

/-- Reads general bytes; they go to the end. -/
def toEnd? (bytes : Bytes) : Option (Bytes × Bytes) :=
  if 1 ≤ bytes.length ∧ bytes.length ≤ 47 then some (bytes, []) else none

/-- Reads a command by the bits of its fourth byte. -/
def parse? : Bytes → Option Attribution
  | 0x56 :: modeByte :: rateByte :: next :: fields => do
    let mode ← depModeOf? modeByte
    let rate ← depRateOf? rateByte
    let (polling?, fields) ← announced? (next.toNat.testBit 0) (field? 5) fields
    let (identity?, fields) ← announced? (next.toNat.testBit 1) (field? 10) fields
    let (general?, []) ← announced? (next.toNat.testBit 2) toEnd? fields | none
    if next.toNat < 8 then some { mode, rate, polling?, identity?, general? } else none
  | _ => none

/-- The byte that announces the fields. -/
def next (r : Attribution) : UInt8 :=
  (if r.polling?.isSome then 0x01 else 0x00) ||| (if r.identity?.isSome then 0x02 else 0x00)
    ||| if r.general?.isSome then 0x04 else 0x00

/-- The fields that are there, one after the other. -/
def fields (r : Attribution) : Bytes :=
  r.polling?.elim [] Vector.toList ++ (r.identity?.elim [] Vector.toList ++ r.general?.elim [] id)

/-- A field and its bit are there together. -/
theorem testBit_next (r : Attribution) : r.next.toNat < 8 ∧
    r.next.toNat.testBit 0 = r.polling?.isSome ∧ r.next.toNat.testBit 1 = r.identity?.isSome ∧
      r.next.toNat.testBit 2 = r.general?.isSome := by
  unfold next
  generalize r.polling?.isSome = polling
  generalize r.identity?.isSome = identity
  generalize r.general?.isSome = general
  revert polling identity general
  decide

/-- **What is asked for is what the fields are written from.** -/
theorem jumpForDep_eq (modeByte rateByte : UInt8) (mode : DepMode) (rate : BaudRate)
    (initiator : Option DepInfo) :
    jumpForDep modeByte rateByte (decide (mode = .passive ∧ rate ≠ .kbps106)) initiator =
      inJumpForDep :: modeByte :: rateByte :: (of mode rate initiator).next ::
        (of mode rate initiator).fields := by
  have hpolling : (if decide (mode = .passive ∧ rate ≠ .kbps106) then (0x01, pollingRequest)
      else (0x00, []) : UInt8 × Bytes) =
        (if (of mode rate initiator).polling?.isSome then 0x01 else 0x00,
          (of mode rate initiator).polling?.elim [] Vector.toList) := by
    by_cases hpolls : mode = .passive ∧ rate ≠ .kbps106 <;> simp [of, hpolls, pollingRequest]
  simp only [jumpForDep, hpolling, next, fields]
  cases initiator with
  | none => simp [of]
  | some i =>
      cases hgeneral : i.generalBytes.isEmpty <;>
        simp [of, hgeneral, Option.filter_some]

/-- What is asked for is read back from the command. -/
theorem parse?_command {r : Attribution} {modeByte rateByte : UInt8}
    (hmode : depModeByte? r.mode = some modeByte) (hrate : depBaudByte? r.rate = some rateByte)
    (hgeneral : ∀ bs ∈ r.general?, 1 ≤ bs.length ∧ bs.length ≤ 47) :
    parse? (inJumpForDep :: modeByte :: rateByte :: r.next :: r.fields) = some r := by
  obtain ⟨hlt, hpollingBit, hidentityBit, hgeneralBit⟩ := r.testBit_next
  have hend : announced? r.general?.isSome toEnd? (r.general?.elim [] id) =
      some (r.general?, []) := by
    rw [← List.append_nil (r.general?.elim [] id)]
    refine announced?_append fun bs hbs => ?_
    rw [List.append_nil, id, toEnd?, if_pos (hgeneral bs hbs)]
  simp only [parse?, fields, hpollingBit, hidentityBit, hgeneralBit, announced?_field, hend,
    depModeOf?_eq hmode, depRateOf?_eq hrate, hlt, inJumpForDep, Option.bind_eq_bind,
    Option.bind_some, if_true]

example : parse? [0x56, 0x00, 0x01, 0x01, 0x00, 0xFF, 0xFF, 0x00, 0x0F] =
    some (of .passive .kbps212 none) := by
  decide

theorem length_fields_le {r : Attribution} (hgeneral : ∀ bs ∈ r.general?, bs.length ≤ 47) :
    r.fields.length ≤ 62 := by
  have hpolling : (r.polling?.elim [] Vector.toList).length ≤ 5 := by
    cases r.polling? <;> simp
  have hidentity : (r.identity?.elim [] Vector.toList).length ≤ 10 := by
    cases r.identity? <;> simp
  have hend : (r.general?.elim [] id).length ≤ 47 := by
    cases h : r.general? with
    | none => simp
    | some bs => exact hgeneral bs h
  simp only [fields, List.length_append]
  omega

end Attribution

/-- A command fits a normal frame. -/
def FitsFrame (command : Bytes) : Prop := ∃ frame, Frame.encode command = .ok frame

/-- Arguments that a peer can be attributed with. -/
structure Attributable (mode : DepMode) (rate : BaudRate) (initiator : Option DepInfo) : Prop where
  mode : mode ≠ .unspecified
  rate : rate ∈ [BaudRate.kbps106, .kbps212, .kbps424]
  general : ∀ i ∈ initiator, i.generalBytes.length ≤ 47

theorem isSome_depModeByte? (mode : DepMode) :
    (depModeByte? mode).isSome = true ↔ mode ≠ .unspecified := by
  cases mode <;> decide

theorem isSome_depBaudByte? (rate : BaudRate) :
    (depBaudByte? rate).isSome = true ↔ rate ∈ [BaudRate.kbps106, .kbps212, .kbps424] := by
  cases rate <;> decide

/-- A command says what is asked for: it is read back as that, the low bits of its fourth byte are
set for the fields that are due, and it fits a normal frame. -/
structure Announces (command : Bytes) (mode : DepMode) (rate : BaudRate)
    (initiator : Option DepInfo) : Prop where
  parsed : Attribution.parse? command = some (.of mode rate initiator)
  bits : ∃ next ∈ command[3]?,
    (next.toNat.testBit 0 = true ↔ mode = .passive ∧ rate ≠ .kbps106) ∧
    (next.toNat.testBit 1 = true ↔ initiator.isSome = true) ∧
    (next.toNat.testBit 2 = true ↔ ∃ i ∈ initiator, i.generalBytes ≠ [])
  fits : FitsFrame command

theorem announces_jumpForDep {modeByte rateByte : UInt8} (hmode : depModeByte? mode = some modeByte)
    (hrate : depBaudByte? rate = some rateByte)
    (hgeneral : ∀ i ∈ initiator, i.generalBytes.length ≤ 47) :
    Announces (jumpForDep modeByte rateByte (decide (mode = .passive ∧ rate ≠ .kbps106)) initiator)
      mode rate initiator := by
  have hends : ∀ bs ∈ (Attribution.of mode rate initiator).general?,
      1 ≤ bs.length ∧ bs.length ≤ 47 := by
    intro bs hbs
    obtain ⟨hbs, hne⟩ := Option.mem_filter_iff.mp hbs
    obtain ⟨i, hi, rfl⟩ := Option.map_eq_some_iff.mp hbs
    exact ⟨List.length_pos_iff.mpr (by simpa using hne), hgeneral i hi⟩
  obtain ⟨-, hpollingBit, hidentityBit, hgeneralBit⟩ :=
    (Attribution.of mode rate initiator).testBit_next
  rw [Attribution.jumpForDep_eq]
  refine ⟨Attribution.parse?_command hmode hrate hends, ⟨_, rfl, ?_, ?_, ?_⟩, ?_⟩
  · rw [hpollingBit]
    simp [Attribution.of]
  · rw [hidentityBit]
    simp [Attribution.of]
  · rw [hgeneralBit]
    cases initiator <;> simp [Attribution.of, Option.filter_some]
  · have hlen := Attribution.length_fields_le fun bs hbs => (hends bs hbs).2
    exact ⟨_, Frame.encode_eq_ok (List.cons_ne_nil _ _) (by simp [Frame.maxData]; omega)⟩

variable {τ : Type} [ChipLink τ]

/-- Arguments that are not refused are asked for at once. -/
theorem selectDep_eq {modeByte rateByte : UInt8} (hmode : depModeByte? mode = some modeByte)
    (hrate : depBaudByte? rate = some rateByte)
    (hgeneral : ∀ i ∈ initiator, i.generalBytes.length ≤ 47) (timeout : Timeout) :
    (selectDep mode rate initiator timeout : Op (Chip τ) (Option Target)) = (do
      let reply ← transceive (jumpForDep modeByte rateByte
        (decide (mode = .passive ∧ rate ≠ .kbps106)) initiator) timeout
      remember (← decodeDepTarget (reply.drop 1) mode rate)) := by
  unfold selectDep
  rw [hmode, hrate]
  cases initiator with
  | none => rfl
  | some i =>
      have hshort : ¬ maxGeneralBytes < i.generalBytes.length := Nat.not_lt.mpr (hgeneral i rfl)
      simp only [checkGeneralBytes, if_neg hshort]
      rfl

/-- **A peer is asked for once**, by a command that says what was given. -/
theorem sent_selectDep (h : Attributable mode rate initiator) (timeout : Timeout)
    (c : Chip (Tapped τ)) : ∃ command,
      (selectDep mode rate initiator timeout c).state.sent = c.sent ++ [command] ∧
        Announces command mode rate initiator := by
  obtain ⟨modeByte, hmode⟩ := Option.isSome_iff_exists.mp ((isSome_depModeByte? mode).mpr h.mode)
  obtain ⟨rateByte, hrate⟩ := Option.isSome_iff_exists.mp ((isSome_depBaudByte? rate).mpr h.rate)
  refine ⟨_, ?_, announces_jumpForDep hmode hrate h.general⟩
  -- nothing is sent behind the command, whatever the reply is made to be
  have hdecode (reply : Bytes) :
      Act.Keeps sent (decodeDepTarget reply mode rate : Op (Chip (Tapped τ)) Target) :=
    .bind (fun _ => rfl) fun _ => Act.keeps_pure _
  have hfound (reply : Bytes) : Act.Keeps sent (do
      remember (← decodeDepTarget (reply.drop 1) mode rate) : Op (Chip (Tapped τ)) _) :=
    (hdecode _).bind fun t => keeps_remember (fun _ _ => rfl) t
  rw [selectDep_eq hmode hrate h.general]
  exact (Act.keeps_after hfound c).trans (sent_transceive _ _ timeout c)

/-- **All other arguments are refused** before the chip is handed anything. -/
theorem fails_selectDep (h : ¬ Attributable mode rate initiator) (timeout : Timeout)
    (c : Chip τ) : (selectDep mode rate initiator timeout).Fails c .invalidArgument c := by
  unfold selectDep
  cases hmode : depModeByte? mode with
  | none => exact ⟨rfl, rfl⟩
  | some modeByte =>
  cases hrate : depBaudByte? rate with
  | none => exact ⟨rfl, rfl⟩
  | some rateByte =>
      have hmode' := (isSome_depModeByte? mode).mp (by rw [hmode]; rfl)
      have hrate' := (isSome_depBaudByte? rate).mp (by rw [hrate]; rfl)
      have hlong : ¬ ∀ i ∈ initiator, i.generalBytes.length ≤ 47 :=
        fun hgeneral => h ⟨hmode', hrate', hgeneral⟩
      cases initiator with
      | none => exact absurd (fun _ hi => nomatch hi) hlong
      | some i =>
          have hlong' : maxGeneralBytes < i.generalBytes.length := by
            simpa [maxGeneralBytes] using hlong
          simp only [checkGeneralBytes, if_pos hlong']
          exact ⟨rfl, rfl⟩

/-! ## Putting a disguise on -/

/-- Reads the command that puts a disguise on, with the historical bytes if it counts any, as it
does on every chip but one. -/
def Disguise.parse? (kind : ChipKind) : Bytes → Option (Disguise × Option Bytes)
  | 0x8C :: modes :: fields => do
    let (mifare, fields) ← field? 6 fields
    let (felica, fields) ← field? 18 fields
    let (nfcid3, fields) ← field? 10 fields
    let (general, fields) ← counted? fields
    let (historical?, []) ← announced? (kind ≠ .pn531) counted? fields | none
    return ({ modes, mifare, felica, nfcid3, general }, historical?)
  | _ => none

omit [ChipLink τ] in
/-- A disguise is read back from its command, which fits a normal frame. -/
theorem Disguise.parse?_command {d : Disguise} (h : d.general.length ≤ 47) (kind : ChipKind) :
    parse? kind (d.command kind) = some (d, if kind = .pn531 then none else some []) ∧
      FitsFrame (d.command kind) := by
  let last : Bytes := if kind ≠ .pn531 then [0x00] else []
  have hcommand : d.command kind = tgInitAsTarget :: d.modes :: (d.mifare.toList ++
      (d.felica.toList ++ (d.nfcid3.toList ++
        UInt8.ofNat d.general.length :: (d.general ++ last)))) := by
    simp [command, last]
  have hgeneral := counted?_append (by omega : d.general.length < 256) last
  have hlast : announced? (kind ≠ .pn531) counted? last =
      some (if kind = .pn531 then none else some [], []) := by
    by_cases hkind : kind = .pn531
    · simp [announced?, last, hkind]
    · simp only [announced?, last, hkind, ne_eq, not_false_eq_true, decide_true, if_true, if_false]
      rfl
  rw [hcommand]
  constructor
  · simp only [parse?, field?_append, hgeneral, hlast, tgInitAsTarget, Option.bind_eq_bind,
      Option.bind_some]
    rfl
  · have hlen : last.length ≤ 1 := by
      by_cases hkind : kind = .pn531 <;> simp [last, hkind]
    refine ⟨_, Frame.encode_eq_ok (List.cons_ne_nil _ _) ?_⟩
    simp only [List.length_cons, List.length_append, Vector.length_toList, Frame.maxData]
    omega

/-- What a chip can claim to be. -/
inductive Shows : TargetInfo → Disguise → Prop
  | iso14443a (a : Iso14443aInfo) : Shows (.iso14443a a) (.ofIso14443a a)
  | felica (f : FelicaInfo) : Shows (.felica f) (.ofFelica f)
  | dep {d : DepInfo} (h : d.generalBytes.length ≤ 47) : Shows (.dep d) (.ofDep d)

omit [ChipLink τ] in
theorem Shows.length_general_le {info : TargetInfo} {d : Disguise} (h : Shows info d) :
    d.general.length ≤ 47 := by
  cases h with
  | iso14443a a => exact Nat.zero_le _
  | felica f => exact Nat.zero_le _
  | dep h => exact h

omit [ChipLink τ] in
theorem yields_disguise {t : Target} {d : Disguise} (h : Shows t.info d) (c : Chip τ) :
    (disguise t).Yields c d c := by
  obtain ⟨rate, info⟩ := t
  cases h with
  | iso14443a a => exact ⟨rfl, rfl⟩
  | felica f => exact ⟨rfl, rfl⟩
  | @dep i h =>
      have hshort : ¬ maxGeneralBytes < i.generalBytes.length := Nat.not_lt.mpr h
      simp only [disguise, checkGeneralBytes, if_neg hshort]
      exact ⟨rfl, rfl⟩

/-- Why a chip does not play a target that it can not claim to be. -/
def refusal (info : TargetInfo) : Error :=
  if info.family = .dep then .invalidArgument else .deviceNotSupported

omit [ChipLink τ] in
theorem fails_disguise {t : Target} (h : ∀ d, ¬ Shows t.info d) (c : Chip τ) :
    (disguise t).Fails c (refusal t.info) c := by
  obtain ⟨rate, info⟩ := t
  cases info with
  | iso14443a a => exact absurd (.iso14443a a) (h _)
  | felica f => exact absurd (.felica f) (h _)
  | dep d =>
      have hlong : maxGeneralBytes < d.generalBytes.length :=
        Nat.lt_of_not_le fun hshort => h _ (.dep hshort)
      simp only [disguise, checkGeneralBytes, if_pos hlong]
      exact ⟨rfl, rfl⟩
  | _ => exact ⟨rfl, rfl⟩

omit [ChipLink τ] in
theorem keeps_fit {β : Type} {view : Chip τ → β} (capacity : Nat) (data : Bytes) :
    Act.Keeps view (fit capacity data : Op (Chip τ) Bytes) :=
  .ite (.bind (Act.keeps_log _ _ _) fun _ => .bind (Act.keeps_throw _) fun _ => Act.keeps_pure _)
    (Act.keeps_pure _)

/-- **A disguise is put on by one command.** -/
theorem sent_targetInit {t : Target} {d : Disguise} (h : Shows t.info d) (capacity : Nat)
    (timeout : Timeout) (c : Chip (Tapped τ)) :
    (targetInit capacity timeout (t, c)).state.2.sent = c.sent ++ [d.command c.kind] := by
  have hdisguise : (besideTarget (disguise t)).Yields (t, c) d (t, c) :=
    Act.yields_zoom.mpr ⟨c, yields_disguise h c, rfl⟩
  have hrole : (besideTarget (modify fun c => { c with role := .target })).Yields (t, c) ()
      (t, { c with role := .target }) := ⟨rfl, rfl⟩
  have hactivated (reply : Bytes) : Act.Keeps (fun s => s.2.sent) (match reply with
      | [] => throw .io
      | activated :: first => do
        modify fun s => ({ s.1 with baudRate := activatedRate activated }, s.2)
        besideTarget (fit capacity first) : Op (Target × Chip (Tapped τ)) Bytes) := by
    cases reply with
    | nil => exact Act.keeps_throw _
    | cons activated first =>
        exact .bind (Act.keeps_modify fun _ => rfl) fun _ s => keeps_fit capacity first s.2
  rw [targetInit, (Act.get_bind _ _).2, (hdisguise.bind _).2, (hrole.bind _).2]
  exact (Act.keeps_after hactivated _).trans
    (sent_transceive _ _ timeout { c with role := .target })

/-- **No other target is played**, and the chip is handed nothing for it. -/
theorem fails_targetInit {t : Target} (h : ∀ d, ¬ Shows t.info d) (capacity : Nat)
    (timeout : Timeout) (c : Chip τ) :
    (targetInit capacity timeout).Fails (t, c) (refusal t.info) (t, c) := by
  have hdisguise : (besideTarget (disguise t)).Fails (t, c) (refusal t.info) (t, c) :=
    Act.fails_zoom.mpr ⟨c, fails_disguise h c, rfl⟩
  rw [Act.Fails, targetInit, (Act.get_bind _ _).1, (Act.get_bind _ _).2]
  exact hdisguise.bind _

/-- **Commands announce what was given.**  A peer that can be attributed is asked for by one command
that is read back as the arguments by its own bits, and a target that can be shown is played by one
command that is read back as its disguise by its own counts.  Both fit a normal frame.  Whatever
else is given is refused with the chip as it was, and so are general bytes that are too long. -/
theorem sent_announced (timeout : Timeout) (c : Chip (Tapped τ)) :
    (∀ mode rate initiator,
      (Attributable mode rate initiator → ∃ command,
        (selectDep mode rate initiator timeout c).state.sent = c.sent ++ [command] ∧
          Announces command mode rate initiator) ∧
      (¬ Attributable mode rate initiator →
        (selectDep mode rate initiator timeout).Fails c .invalidArgument c)) ∧
    ∀ (t : Target) (capacity : Nat),
      (∀ d, Shows t.info d → ∃ command,
        (targetInit capacity timeout (t, c)).state.2.sent = c.sent ++ [command] ∧
          Disguise.parse? c.kind command =
            some (d, if c.kind = .pn531 then none else some []) ∧ FitsFrame command) ∧
      ((∀ d, ¬ Shows t.info d) →
        (targetInit capacity timeout).Fails (t, c) (refusal t.info) (t, c)) :=
  ⟨fun _ _ _ => ⟨fun h => sent_selectDep h timeout c, fun h => fails_selectDep h timeout c⟩,
    fun _ capacity =>
      ⟨fun _ h => ⟨_, sent_targetInit h capacity timeout c,
        Disguise.parse?_command h.length_general_le c.kind⟩,
      fun h => fails_targetInit h capacity timeout c⟩⟩

/-- A peer with general bytes of a given length. -/
def peer (length : Nat) : DepInfo where
  nfcid3 := .replicate 10 0x2A
  did := 0
  bs := 0
  br := 0
  timeout := 0x0E
  pp := 0x32
  generalBytes := .replicate length 0x46
  mode := .passive

/-- All three fields are announced for a peer with 47 general bytes above the lowest speed, and one
with 48 is refused, asked for or played. -/
theorem sent_announced_peer :
    let c : Chip (Tapped Simulated.ChipScript) := { link := { link := {} } }
    (∃ command,
      (selectDep .passive .kbps212 (some (peer 47)) .infinite c).state.sent = c.sent ++ [command] ∧
        Announces command .passive .kbps212 (some (peer 47))) ∧
    (selectDep .passive .kbps212 (some (peer 48)) .infinite).Fails c .invalidArgument c ∧
    (∃ command,
      (targetInit 16 .infinite (⟨.kbps106, .dep (peer 47)⟩, c)).state.2.sent =
          c.sent ++ [command] ∧
        Disguise.parse? .unknown command = some (.ofDep (peer 47), some []) ∧ FitsFrame command) ∧
    (targetInit 16 .infinite).Fails (⟨.kbps106, .dep (peer 48)⟩, c) .invalidArgument
      (⟨.kbps106, .dep (peer 48)⟩, c) := by
  intro c
  obtain ⟨hselect, hinit⟩ := sent_announced .infinite c
  refine ⟨(hselect _ _ _).1 ⟨by decide, by decide, ?_⟩, (hselect _ _ _).2 fun h => ?_,
    (hinit _ 16).1 _ (.dep (by decide)), (hinit _ 16).2 fun d h => ?_⟩
  · intro i hi
    cases hi
    decide
  · exact absurd (h.general _ rfl) (by decide)
  · cases h with
    | dep hshort => exact absurd hshort (by decide)

end Chip

end NearField.Pn53x
