import NearField.Proofs.Capacity
import NearField.Proofs.Pn53x.ModeRegisters
import NearField.Proofs.Pn53x.Truthful

/-!
# Frames of bits

How many bits of a last byte are sent is up to a register of the chip, and holds for every exchange
that follows.  So an exchange of a raw frame of bits sets the register first and resets it last,
however the exchange itself ended: what is written to it last is zero
(`transceiveBits_resets`).
-/

namespace NearField.Pn53x

/-! ## Writes that crossed a link -/

/-- The commands among what crossed a link. -/
def commandsIn (crossed : List Crossing) : List Bytes :=
  crossed.filterMap fun
    | .command cmd => some cmd
    | .reply _ _ => none

theorem commandsIn_append (before crossed : List Crossing) :
    commandsIn (before ++ crossed) = commandsIn before ++ commandsIn crossed :=
  List.filterMap_append

/-- Each command that writes to registers was followed by a reply. -/
def WritesAnswered : List Crossing → Prop
  | [] => True
  | .reply _ _ :: rest => WritesAnswered rest
  | .command cmd :: rest =>
    (writesOf cmd ≠ [] → ∃ code reply, rest.head? = some (.reply code (.ok reply))) ∧
      WritesAnswered rest

namespace Chip

variable {τ : Type}

/-- The value that was written last to a register of the chip, if any was. -/
def register? (r : UInt16) (c : Chip (Noted Crossing τ)) : Option UInt8 :=
  lastWritten? r (commandsIn c.crossings)

variable [ChipLink τ] {r : UInt16} {value : UInt8}

/-- One command crosses the link in an exchange, and it is answered unless the exchange fails. -/
theorem crossings_exchange (code : UInt8) (params : Bytes) (c : Chip (Noted Crossing τ)) :
    let o := exchange (code :: params) c
    ∃ replies, o.state.crossings = c.crossings ++ .command (code :: params) :: replies ∧
      commandsIn replies = [] ∧ ∀ code' reply, hasStatusByte code = false →
        replies.head? = some (.reply code' (.ok reply)) → o.result = .ok reply := by
  intro o
  rcases crossings_transceive code params c.commandTimeout c with
    ⟨-, hcrossings⟩ | ⟨r, hcrossings, hresult⟩
  · exact ⟨[], hcrossings, rfl, nofun⟩
  · refine ⟨[.reply code r], hcrossings, rfl, fun code' reply hstatus hhead => ?_⟩
    obtain ⟨rfl, rfl⟩ := Crossing.reply.inj (Option.some.inj hhead)
    exact hresult.trans (by simp [Except.bind, answer, hstatus])

/-- A register holds what the command writes to it, and otherwise what it held. -/
theorem register?_exchange (r : UInt16) (code : UInt8) (params : Bytes)
    (c : Chip (Noted Crossing τ)) : (exchange (code :: params) c).state.register? r =
      (lastWritten? r [code :: params]).or (c.register? r) := by
  obtain ⟨replies, hcrossings, hreplies, -⟩ := crossings_exchange code params c
  have hcommands : commandsIn (.command (code :: params) :: replies) = [code :: params] :=
    congrArg (List.cons _) hreplies
  rw [register?, hcrossings, commandsIn_append, hcommands, lastWritten?_append, register?]

/-- A command that writes no register leaves them all. -/
theorem keeps_register?_exchange {code : UInt8} (hcode : code ≠ Pn53x.writeRegister)
    (params : Bytes) :
    Act.Keeps (register? r) (exchange (code :: params) : Op (Chip (Noted Crossing τ)) Bytes) := by
  intro c
  have hnone : lastWritten? r [code :: params] = none := by
    simp [lastWritten?, writesOf, hcode]
  rw [register?_exchange, hnone, Option.none_or]

theorem keeps_register?_readRegister (r' : UInt16) :
    Act.Keeps (register? r) (readRegister r' : Op (Chip (Noted Crossing τ)) UInt8) :=
  .bind (keeps_register?_exchange (by decide) _) fun _ => Act.keeps_ofOption _ _

/-- A register holds what was written to it, as far as the host can tell: whether or not the write
was answered. -/
theorem register?_writeRegister (r : UInt16) (value : UInt8) (c : Chip (Noted Crossing τ)) :
    (writeRegister r value c).state.register? r = some value := by
  have hwritten : lastWritten? r [Command.writeRegisters [(r, value)]] = some value := by
    rw [lastWritten?, List.flatMap_singleton, writesOf_writeRegisters]
    simp
  refine (Act.keeps_after (fun _ => Act.keeps_pure _) c).trans ?_
  exact (register?_exchange r _ _ c).trans (congrArg (·.or (c.register? r)) hwritten)

/-- A write that fails was not answered. -/
theorem not_writesAnswered_of_fails {e : Error} {c c' : Chip (Noted Crossing τ)}
    (h : (writeRegister r value).Fails c e c') {crossed : List Crossing}
    (hcrossed : c'.crossings = c.crossings ++ crossed) : ¬ WritesAnswered crossed := by
  rcases Act.fails_bind.mp h with ⟨hresult, rfl⟩ | ⟨_, _, -, h⟩
  · obtain ⟨replies, hcrossings, -, hanswered⟩ := crossings_exchange Pn53x.writeRegister _ c
    obtain rfl := List.append_cancel_left (hcrossed.symm.trans hcrossings)
    rintro ⟨hreply, -⟩
    have hwrites : writesOf (Command.writeRegisters [(r, value)]) ≠ [] := by
      rw [writesOf_writeRegisters]
      exact List.cons_ne_nil _ _
    obtain ⟨code, reply, hhead⟩ := hreply hwrites
    cases (hanswered code reply (by decide) hhead).symm.trans hresult
  · exact absurd h Act.not_fails_pure

/-! ## Frames -/

/-- The chip takes a frame: it handles parity by itself, and there is a byte for every bit. -/
structure Sendable (tx : BitFrame) (c : Chip τ) : Prop where
  parity : c.parity = true
  plain : tx.parity? = none
  bits : 0 < tx.bits
  room : (tx.bits + 7) / 8 ≤ tx.data.length

/-- Makes a frame of the reply to an exchange. -/
def readFrame (capacity : Nat) (exchanged : Except Error Bytes) : Op (Chip τ) BitFrame := do
  let reply ← Act.ofExcept exchanged
  let data ← fit capacity (reply.drop 1)
  let rxLastBits := (← readRegister regControl) &&& maskLastBits
  return ⟨data, countBits data.length rxLastBits, none⟩

/-- Exchanges a frame that can be sent. -/
def exchangeBits (tx : BitFrame) (capacity : Nat) : Op (Chip τ) BitFrame := do
  let lastBits := UInt8.ofNat (tx.bits % 8)
  writeRegister regBitFraming (lastBits &&& maskLastBits)
  let exchanged ← (exchange (inCommunicateThru :: tx.data.take ((tx.bits + 7) / 8))).attempt
  if lastBits ≠ 0 then writeRegister regBitFraming 0x00
  readFrame capacity exchanged

theorem transceiveBits_eq (tx : BitFrame) (capacity : Nat) (c : Chip τ) :
    transceiveBits tx capacity c = (if c.parity = true ∧ tx.parity? = none then
      if 0 < tx.bits ∧ (tx.bits + 7) / 8 ≤ tx.data.length then exchangeBits tx capacity
      else throw .invalidArgument
    else throw .notImplemented : Op (Chip τ) BitFrame) c := by
  let size := (tx.bits + 7) / 8
  have hplain : (c.parity && tx.parity?.isNone) = true ↔ c.parity = true ∧ tx.parity? = none := by
    simp
  have hsize : (decide (size ≠ 0) && decide (size ≤ tx.data.length)) = true ↔
      0 < tx.bits ∧ size ≤ tx.data.length := by
    rw [Bool.and_eq_true, decide_eq_true_eq, decide_eq_true_eq]
    omega
  calc transceiveBits tx capacity c
    _ = (Act.require (c.parity && tx.parity?.isNone) Error.notImplemented >>= fun _ =>
          Act.require (size ≠ 0 && size ≤ tx.data.length) Error.invalidArgument >>= fun _ =>
            exchangeBits tx capacity : Op (Chip τ) BitFrame) c := rfl
    _ = _ := by
      rw [Act.require_bind, Act.require_bind]
      simp only [hplain, hsize, size]

/-- A frame that can be sent is exchanged. -/
theorem transceiveBits_of_sendable {tx : BitFrame} {c : Chip τ} (h : Sendable tx c)
    (capacity : Nat) : transceiveBits tx capacity c = exchangeBits tx capacity c := by
  rw [transceiveBits_eq, if_pos ⟨h.parity, h.plain⟩, if_pos ⟨h.bits, h.room⟩]

/-- Any other is refused beforehand. -/
theorem fails_transceiveBits {tx : BitFrame} {c : Chip τ} (h : ¬ Sendable tx c) (capacity : Nat) :
    (transceiveBits tx capacity).Fails c .notImplemented c ∨
      (transceiveBits tx capacity).Fails c .invalidArgument c := by
  simp only [Act.Fails, transceiveBits_eq]
  by_cases hplain : c.parity = true ∧ tx.parity? = none
  · have hsize : ¬ (0 < tx.bits ∧ (tx.bits + 7) / 8 ≤ tx.data.length) :=
      fun hsize => h ⟨hplain.1, hplain.2, hsize.1, hsize.2⟩
    simp [hplain, hsize]
  · simp [hplain]

/-- The last byte of a frame has at least one bit and at most eight. -/
theorem countBits_ceil {lastBits : UInt8} (h : lastBits.toNat < 8) (size : Nat) :
    (countBits size lastBits + 7) / 8 = size := by
  unfold countBits
  by_cases hsize : size = 0
  · rw [if_pos hsize, hsize]
  · by_cases hbits : lastBits = 0
    · rw [if_neg hsize, if_pos hbits]
      omega
    · have hpos : lastBits.toNat ≠ 0 := fun h => hbits (UInt8.toNat_inj.mp h)
      rw [if_neg hsize, if_neg hbits]
      omega

theorem toNat_lastBits_lt (value : UInt8) : (value &&& maskLastBits).toNat < 8 := by
  rw [UInt8.toNat_and]
  exact Nat.lt_succ_of_le Nat.and_le_right

/-- A frame fits, and its bits fill as many bytes as it has. -/
theorem gives_transceiveBits (tx : BitFrame) (capacity : Nat) :
    Act.Gives (fun frame => frame.data.length ≤ capacity ∧
        (frame.bits + 7) / 8 = frame.data.length)
      (transceiveBits tx capacity : Op (Chip τ) BitFrame) := by
  -- a frame is made only behind the checks, the first write and the exchange
  refine .after fun _ => .after fun _ => .after fun _ => .after fun _ => .after fun exchanged => ?_
  refine .optionally (.after fun reply => (gives_fit capacity _).bind fun data hfit => ?_)
  exact .after fun value => Act.gives_pure ⟨hfit, countBits_ceil (toNat_lastBits_lt value) _⟩

theorem keeps_register?_readFrame (capacity : Nat) (exchanged : Except Error Bytes) :
    Act.Keeps (register? r)
      (readFrame capacity exchanged : Op (Chip (Noted Crossing τ)) BitFrame) := by
  have hfit (data : Bytes) : Act.Keeps (register? r)
      (fit capacity data : Op (Chip (Noted Crossing τ)) Bytes) :=
    .ite (.bind (Act.keeps_log _ _ _) fun _ => Act.keeps_throw _) (Act.keeps_pure _)
  refine (Act.keeps_ofExcept exchanged).bind fun reply => (hfit _).bind fun data => ?_
  exact (keeps_register?_readRegister _).bind fun _ => Act.keeps_pure _

/-- Once the register is set the exchange may end in any way: the register is reset, or was set to
zero at once. -/
theorem register?_exchangeBits {tx : BitFrame} {capacity : Nat} {c c' : Chip (Noted Crossing τ)}
    (h : (writeRegister regBitFraming (UInt8.ofNat (tx.bits % 8) &&& maskLastBits)).Yields c ()
      c') :
    (exchangeBits tx capacity c).state.register? regBitFraming = some 0 := by
  have hset : c'.register? regBitFraming = some (UInt8.ofNat (tx.bits % 8) &&& maskLastBits) := by
    rw [← h.2, register?_writeRegister]
  have hread (exchanged : Except Error Bytes) : Act.Keeps (register? regBitFraming)
      (readFrame capacity exchanged : Op (Chip (Noted Crossing τ)) BitFrame) :=
    keeps_register?_readFrame capacity exchanged
  -- from here on the exchange is attempted, and nothing but the reset writes a register
  rw [exchangeBits, (h.bind _).2, (Act.attempt_bind _ _ _).2]
  by_cases hbits : UInt8.ofNat (tx.bits % 8) ≠ 0
  · rw [if_pos hbits, Act.keeps_after (fun _ => hread _), register?_writeRegister]
  · rw [if_neg hbits, hread, keeps_register?_exchange (by decide), hset, Decidable.not_not.mp hbits]
    rfl

/-- **The register is reset**, however the exchange ended: once the writes to registers are answered
it holds zero.  A frame that the chip does not take changes nothing, and one that comes back fits
and has as many bytes as its bits need. -/
theorem transceiveBits_resets (tx : BitFrame) (capacity : Nat) (c : Chip (Noted Crossing τ)) :
    let o := transceiveBits tx capacity c
    (∃ crossed, o.state.crossings = c.crossings ++ crossed ∧
      (Sendable tx c → WritesAnswered crossed → o.state.register? regBitFraming = some 0)) ∧
      (¬ Sendable tx c → o.state = c ∧
        (o.result = .error .notImplemented ∨ o.result = .error .invalidArgument)) ∧
      ∀ frame, o.result = .ok frame →
        frame.data.length ≤ capacity ∧ (frame.bits + 7) / 8 = frame.data.length := by
  intro o
  obtain ⟨crossed, hcrossed⟩ := (truthful_transceiveBits tx capacity).grows c
  refine ⟨⟨crossed, hcrossed.symm, fun hsend hanswered => ?_⟩, fun hrefused => ?_,
    gives_transceiveBits tx capacity c⟩
  · let set : Op (Chip (Noted Crossing τ)) Unit :=
      writeRegister regBitFraming (UInt8.ofNat (tx.bits % 8) &&& maskLastBits)
    have hrun : o = exchangeBits tx capacity c := transceiveBits_of_sendable hsend capacity
    rcases set.yields_or_fails c with ⟨_, h⟩ | ⟨e, h⟩
    · rw [hrun]
      exact register?_exchangeBits h
    · -- the run ends at the first write, which then was not answered
      have hstate : o.state = (set c).state := hrun ▸ (h.bind _).2
      exact absurd hanswered (not_writesAnswered_of_fails h (hstate ▸ hcrossed.symm))
  · rcases fails_transceiveBits hrefused capacity with h | h
    · exact ⟨h.2, .inl h.1⟩
    · exact ⟨h.2, .inr h.1⟩

/-- A chip that takes every command, and that no tag answers. -/
def unanswered : Chip (Noted Crossing Simulated.ChipScript) :=
  { link := ⟨{ replies := [.payload [], .payload [0x01], .payload []] }, []⟩ }

/-- The request of seven bits that tags of type A listen for. -/
def request : BitFrame := ⟨[0x26], 7, none⟩

/-- Seven bits are sent and nothing answers.  The exchange fails, and the chip is told all the same
that every bit is valid again. -/
theorem transceiveBits_resets_unanswered :
    let o := transceiveBits request 4 unanswered
    (Sendable request unanswered ∧ o.result = .error .timeout) ∧
      WritesAnswered o.state.crossings ∧ o.state.register? regBitFraming = some 0 := by
  intro o
  have hsend : Sendable request unanswered := ⟨rfl, rfl, by decide, by decide⟩
  have hcrossings : o.state.crossings = [.command [0x08, 0x63, 0x3D, 7], .reply 0x08 (.ok []),
      .command [0x42, 0x26], .reply 0x42 (.ok [0x01]),
      .command [0x08, 0x63, 0x3D, 0], .reply 0x08 (.ok [])] := rfl
  have hanswered : WritesAnswered o.state.crossings := by
    rw [hcrossings]
    exact ⟨fun _ => ⟨_, _, rfl⟩, fun h => absurd rfl h, fun _ => ⟨_, _, rfl⟩, trivial⟩
  obtain ⟨⟨crossed, hcrossed, hreset⟩, -⟩ := transceiveBits_resets request 4 unanswered
  obtain rfl : o.state.crossings = crossed := hcrossed
  exact ⟨⟨hsend, rfl⟩, hanswered, hreset hsend hanswered⟩

/-- Where the first write is not answered the exchange is not tried, and the register stays set. -/
example : (transceiveBits request 4
    ({ link := ⟨{}, []⟩ } : Chip (Noted Crossing Simulated.ChipScript))).state.register?
      regBitFraming = some 7 := rfl

end Chip

end NearField.Pn53x
