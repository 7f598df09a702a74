import NearField.Frame
import NearField.Proofs.Act

/-!
# Reply frames read back

`Frame.decode` accepts the frames that `Frame.encodeReply` builds, with any bytes behind them
(`decode_encodeReply`), and nothing else (`eq_encodeReply_of_decode`).  The length byte counts
identifier and code beside the parameters, so a frame has room for 253 parameters.  So there is
one way to write a reply (`decode_eq_ok_iff_encodeReply`).
-/

namespace NearField

/-- What is left of 256 beside a length, which is not zero. -/
theorem Checksum.add_eq_256_iff {len check : UInt8} :
    len.toNat + check.toNat = 256 ↔ lcs len = check ∧ len ≠ 0 := by
  have hlen := len.toNat_lt
  have hcheck := check.toNat_lt
  have hlcs : (lcs len).toNat = (256 - len.toNat) % 256 := by simp [lcs]
  rw [← UInt8.toNat_inj, hlcs, ne_eq, ← UInt8.toNat_inj, UInt8.toNat_zero]
  omega

namespace Frame

/-- A command that fits a frame is wrapped. -/
theorem encode_eq_ok {data : Bytes} (hne : data ≠ []) (hlen : data.length ≤ maxData) :
    encode data = .ok (wrap (hostTfi :: data)) := by
  unfold encode
  rw [if_neg (by simpa using hne), if_neg (Nat.not_lt.mpr hlen)]

/-- A command that does not fit a frame is refused. -/
theorem encode_eq_error {data : Bytes} (hne : data ≠ []) (hlen : maxData < data.length) :
    encode data = .error .deviceNotSupported := by
  unfold encode
  rw [if_neg (by simpa using hne), if_pos hlen]

/-- Commands that no frame carries: none at all, or one that is too long. -/
theorem encode_eq_error_iff {e : Error} : encode data = .error e ↔
    data = [] ∧ e = .invalidArgument ∨ maxData < data.length ∧ e = .deviceNotSupported := by
  by_cases hne : data = []
  · subst hne
    simp [encode, eq_comm]
  · by_cases hlen : data.length ≤ maxData
    · simp [encode_eq_ok hne hlen, hne, Nat.not_lt.mpr hlen]
    · simp [encode_eq_error hne (Nat.not_le.mp hlen), hne, Nat.not_le.mp hlen, eq_comm]

/-- What is encoded is the wrapped command. -/
theorem eq_wrap_of_encode {data frame : Bytes} (h : encode data = .ok frame) :
    frame = wrap (hostTfi :: data) := by
  unfold encode at h
  split at h
  · cases h
  · split at h <;> cases h
    rfl

theorem encodeReply_eq (command : UInt8) (params : Bytes) :
    encodeReply command params =
      0x00 :: 0x00 :: 0xFF :: UInt8.ofNat (params.length + 2)
        :: Checksum.lcs (UInt8.ofNat (params.length + 2)) :: chipTfi :: (command + 1)
        :: (params ++ [Checksum.dcs (chipTfi :: (command + 1) :: params), postamble]) := rfl

@[simp] theorem length_encodeReply (command : UInt8) (params : Bytes) :
    (encodeReply command params).length = 9 + params.length := by
  rw [encodeReply_eq]
  simp only [List.length_cons, List.length_append, List.length_nil]
  omega

/-- The length byte of a reply that fits. -/
theorem toNat_replyLength {n : Nat} (h : n ≤ 253) : (UInt8.ofNat (n + 2)).toNat = n + 2 :=
  UInt8.toNat_ofNat_of_lt' (Nat.lt_succ_of_le (Nat.add_le_add_right h 2))

/-- A length byte of two or more is that of a reply that fits. -/
theorem replyLength_toNat {len : UInt8} (h : 2 ≤ len.toNat) :
    UInt8.ofNat (len.toNat - 2 + 2) = len := by
  rw [Nat.sub_add_cancel h, UInt8.ofNat_toNat]

/-- The trailer passes when it holds the checksum of the content and the postamble. -/
theorem checkTrailer_eq_ok {content trailer : Bytes} {u : Unit} :
    checkTrailer content trailer = .ok u ↔
      ∃ tail, trailer = Checksum.dcs content :: postamble :: tail := by
  rcases trailer with _ | ⟨check, _ | ⟨post, tail⟩⟩
  · simp [checkTrailer]
  · simp [checkTrailer]
  · by_cases hc : check = Checksum.dcs content
    · by_cases hp : post = postamble <;> simp [checkTrailer, hc, hp]
    · simp [checkTrailer, hc]

/-- A content of `len` bytes is identifier, code and parameters, and the trailer follows. -/
theorem decodeContent_eq_ok {len : Nat} {command : UInt8} {bytes params : Bytes} :
    decodeContent len command bytes = .ok params ↔
      bytes.take len = chipTfi :: (command + 1) :: params ∧
        ∃ tail, bytes.drop len =
          Checksum.dcs (chipTfi :: (command + 1) :: params) :: postamble :: tail := by
  unfold decodeContent
  split
  · rename_i tfi code ps he
    by_cases ht : tfi = chipTfi
    · by_cases hc : code = command + 1
      · subst ht hc
        simp only [ne_eq, not_true_eq_false, if_false, Act.map_eq_ok, checkTrailer_eq_ok, he,
          List.cons.injEq, true_and, exists_const]
        refine ⟨?_, ?_⟩
        · rintro ⟨h, rfl⟩
          exact ⟨rfl, h⟩
        · rintro ⟨rfl, h⟩
          exact ⟨h, rfl⟩
      · simp [he, ht, hc]
    · simp [he, ht]
  · rename_i hno
    refine ⟨?_, ?_⟩
    · rintro h
      cases h
    · rintro ⟨h, -⟩
      exact absurd h (hno _ _ _)

/-- Behind two length fields that agree, count two bytes or more and do not reach beyond the end,
the content decides.  Neither marker has such fields: one counts a single byte, and those of the
other do not agree. -/
theorem decode_of_header {len : UInt8} {rest : Bytes} (hlen : 2 ≤ len.toNat)
    (hfit : overhead + len.toNat ≤ rest.length + 5) (command : UInt8) :
    decode (0x00 :: 0x00 :: 0xFF :: len :: Checksum.lcs len :: rest) command =
      decodeContent len.toNat command rest := by
  have happlication : ¬ (len = 0x01 ∧ Checksum.lcs len = 0xFF) := by
    rintro ⟨rfl, -⟩
    exact absurd hlen (by decide)
  have hextended : ¬ (len = 0xFF ∧ Checksum.lcs len = 0xFF) := by
    rintro ⟨rfl, h⟩
    exact absurd h (by decide)
  have hshort : ¬ len < 2 := fun h => absurd (UInt8.lt_iff_toNat_lt.mp h) (Nat.not_lt.mpr hlen)
  unfold decode
  simp only [List.length_cons]
  rw [if_neg (by omega), if_neg happlication, if_neg hextended, if_neg (not_not_intro rfl),
    if_neg hshort, if_neg (by omega)]

/-- A frame passes when its two length fields agree, count two bytes or more and do not reach
beyond the end, and its content passes. -/
theorem decode_eq_ok {frame params : Bytes} {command : UInt8} :
    decode frame command = .ok params ↔
      ∃ len rest, frame = 0x00 :: 0x00 :: 0xFF :: len :: Checksum.lcs len :: rest ∧
        2 ≤ len.toNat ∧ overhead + len.toNat ≤ frame.length ∧
          decodeContent len.toNat command rest = .ok params := by
  refine ⟨fun h => ?_, ?_⟩
  · unfold decode at h
    split at h
    · rename_i len check rest
      simp only [Act.ite_error_eq_ok, Nat.not_lt] at h
      obtain ⟨-, -, -, hcheck, hlen, hfit, h⟩ := h
      rw [ne_eq, Decidable.not_not] at hcheck
      subst hcheck
      exact ⟨len, rest, rfl, Nat.not_lt.mp fun h' => hlen (UInt8.lt_iff_toNat_lt.mpr h'), hfit, h⟩
    · cases h
  · rintro ⟨len, rest, rfl, hlen, hfit, h⟩
    rw [decode_of_header hlen hfit]
    exact h

/-- **Replies are accepted**, whatever bytes follow them. -/
theorem decode_encodeReply {command : UInt8} {params : Bytes} (h : params.length ≤ 253)
    (tail : Bytes) : decode (encodeReply command params ++ tail) command = .ok params := by
  have hlen := toNat_replyLength h
  have hsize := length_encodeReply command params
  rw [encodeReply_eq] at hsize ⊢
  refine decode_eq_ok.mpr ⟨UInt8.ofNat (params.length + 2), _, rfl, by omega, ?_,
    decodeContent_eq_ok.mpr ?_⟩
  · rw [List.length_append, hsize, hlen, overhead]
    omega
  · rw [hlen]
    exact ⟨by simp, tail, by simp⟩

/-- **Nothing else is accepted**: what decodes to `params` is their reply and a tail. -/
theorem eq_encodeReply_of_decode {frame params : Bytes} {command : UInt8}
    (h : decode frame command = .ok params) :
    params.length ≤ 253 ∧ ∃ tail, frame = encodeReply command params ++ tail := by
  obtain ⟨len, rest, rfl, hlen, hfit, h⟩ := decode_eq_ok.mp h
  obtain ⟨hcontent, tail, htrailer⟩ := decodeContent_eq_ok.mp h
  have hcount : params.length + 2 = len.toNat := by
    have := congrArg List.length hcontent
    simp only [List.length_take, List.length_cons, overhead] at this hfit
    omega
  have hmax := len.toNat_lt
  refine ⟨by omega, tail, ?_⟩
  rw [encodeReply_eq, hcount, UInt8.ofNat_toNat, ← List.take_append_drop len.toNat rest, hcontent,
    htrailer]
  simp

/-- A reply to another command is not decoded. -/
theorem decode_foreign {code other : UInt8} {reply : Bytes} (hother : other ≠ code)
    (hreply : reply.length ≤ 253) :
    decode (encodeReply other reply) code = .error (.command (code + 1) (other + 1)) := by
  have hlen := toNat_replyLength hreply
  have hcode : other + 1 ≠ code + 1 := fun h => hother (UInt8.add_left_inj 1 |>.mp h)
  rw [encodeReply_eq, decode_of_header (by omega) (by simp [overhead]; omega), hlen]
  simp [decodeContent, hcode]

/-- **There is one way to write a reply**: bytes are read as the answer `params` exactly when
they begin with the frame that is built from it, and that is so for 253 parameters at most. -/
theorem decode_eq_ok_iff_encodeReply (frame params : Bytes) (command : UInt8) :
    decode frame command = .ok params ↔
      params.length ≤ 253 ∧ ∃ tail, frame = encodeReply command params ++ tail := by
  refine ⟨fun h => eq_encodeReply_of_decode h, ?_⟩
  rintro ⟨hmax, tail, rfl⟩
  exact decode_encodeReply hmax tail

/-! ## Frames in operations -/

theorem keeps_decodeOp {σ : Type} (frame : Bytes) (command : UInt8) :
    Act.Keeps id (decodeOp frame command : Op σ Bytes) := by
  intro s
  unfold decodeOp
  cases decode frame command <;> rfl

section

variable {σ : Type} {R : σ → σ → Prop} [IsPreorder σ R] {E : Error → Prop}
  (own : ∀ {e : Error}, e ≠ .operationAborted → E e)
include own

/-- What can not be encoded is not taken for an abort. -/
theorem leads_encodeOp (data : Bytes) : Act.Leads R E (encodeOp data) := by
  refine Act.leads_ofExcept fun e he => own ?_
  rintro rfl
  simp only [encode] at he
  split at he
  · cases he
  · split at he <;> cases he

/-- What can not be decoded is not taken for an abort. -/
theorem leads_decodeOp (frame : Bytes) (command : UInt8) :
    Act.Leads R E (decodeOp frame command) := by
  intro s
  unfold decodeOp
  cases decode frame command with
  | ok params => exact ⟨refl_of R s, nofun⟩
  | error fault =>
      refine ⟨refl_of R s, fun e he => own ?_⟩
      obtain rfl : fault.toError = e := Except.error.inj he
      cases fault <;> exact nofun

end

end Frame

end NearField
