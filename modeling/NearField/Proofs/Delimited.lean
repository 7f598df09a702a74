import NearField.Proofs.Arygon.Exchange
import NearField.Proofs.Usb.Exchange

/-!
# Where a frame ends

The length byte counts the content of a frame, so a frame says where it ends: two runs of bytes
that begin with frames agree only if the frames and what follows them agree (`wrap_append_inj`).
That needs the count to fit a byte, which is why long commands are refused.  The content of a
frame has two bytes or more.  So no frame looks like an acknowledgement, which counts none, or
has the length fields of an error frame, which counts one, or of an extended frame, whose
length fields do not complete each other (`Unmistakable`).
-/

namespace NearField

namespace Checksum

theorem sum_concat (bytes : Bytes) (b : UInt8) : sum (bytes ++ [b]) = sum bytes + b :=
  List.foldl_append

/-- The checksum completes the sum. -/
theorem sum_dcs (bytes : Bytes) : sum (bytes ++ [dcs bytes]) = 0 := by
  rw [sum_concat, dcs]
  grind

theorem sum_lcs (len : UInt8) : sum [len, lcs len] = 0 := by
  rw [lcs]
  grind [sum]

end Checksum

namespace Frame

variable {content content' data data' frame frame' tail tail' : Bytes}

/-- The two length fields of a frame. -/
def lengthFields (frame : Bytes) : Bytes := (frame.drop 3).take 2

/-- Identifier, data and data checksum of a frame: what is between its length fields and its
postamble. -/
def summed (frame : Bytes) : Bytes := (frame.drop 5).dropLast

/-- The checksums of a frame are right, and it is none of the special frames. -/
structure Unmistakable (frame : Bytes) : Prop where
  lengthSum : Checksum.sum (lengthFields frame) = 0
  dataSum : Checksum.sum (summed frame) = 0
  notAck : ¬ ack <+: frame
  notError : lengthFields frame ≠ [0x01, 0xFF]
  notExtended : lengthFields frame ≠ [0xFF, 0xFF]

/-! ## Contents -/

theorem wrap_append (content tail : Bytes) : wrap content ++ tail =
    0x00 :: 0x00 :: 0xFF :: UInt8.ofNat content.length
      :: Checksum.lcs (UInt8.ofNat content.length)
      :: (content ++ Checksum.dcs content :: postamble :: tail) := by
  simp [wrap, preamble]

/-- The length byte of a content that fits. -/
theorem toNat_length (h : content.length ≤ 255) :
    (UInt8.ofNat content.length).toNat = content.length :=
  UInt8.toNat_ofNat_of_lt' (Nat.lt_succ_of_le h)

/-- **A frame says where it ends.** -/
theorem wrap_append_inj (hlen : content.length ≤ 255) (hlen' : content'.length ≤ 255)
    (h : wrap content ++ tail = wrap content' ++ tail') : content = content' ∧ tail = tail' := by
  rw [wrap_append, wrap_append] at h
  simp only [List.cons.injEq, true_and] at h
  obtain ⟨hcount, -, h⟩ := h
  have hlength : content.length = content'.length := by
    rw [← toNat_length hlen, hcount, toNat_length hlen']
  obtain ⟨rfl, hrest⟩ := List.append_inj h hlength
  simp only [List.cons.injEq, true_and] at hrest
  exact ⟨rfl, hrest⟩

theorem lengthFields_wrap (content : Bytes) : lengthFields (wrap content) =
    [UInt8.ofNat content.length, Checksum.lcs (UInt8.ofNat content.length)] := rfl

theorem summed_wrap (content : Bytes) :
    summed (wrap content) = content ++ [Checksum.dcs content] := by
  have hwrap := wrap_append content []
  rw [List.append_nil] at hwrap
  rw [summed, hwrap]
  simp

/-- The length fields of a frame tell the length of its content. -/
theorem length_eq_of_lengthFields (hlen : content.length ≤ 255) {len check : UInt8}
    (h : lengthFields (wrap content) = [len, check]) :
    content.length = len.toNat ∧ check = Checksum.lcs len := by
  rw [lengthFields_wrap] at h
  simp only [List.cons.injEq, and_true] at h
  obtain ⟨rfl, rfl⟩ := h
  exact ⟨(toNat_length hlen).symm, rfl⟩

/-- **A frame around two bytes or more is none of the special frames.** -/
theorem unmistakable_wrap (htwo : 2 ≤ content.length) (hlen : content.length ≤ 255) :
    Unmistakable (wrap content) where
  lengthSum := by
    rw [lengthFields_wrap]
    exact Checksum.sum_lcs _
  dataSum := by
    rw [summed_wrap]
    exact Checksum.sum_dcs content
  notAck := by
    rintro ⟨tail, h⟩
    have hfields : lengthFields (wrap content) = [0x00, 0xFF] := congrArg lengthFields h.symm
    have hnone : content.length = 0 := (length_eq_of_lengthFields hlen hfields).1
    omega
  notError h := by
    have hone : content.length = 1 := (length_eq_of_lengthFields hlen h).1
    omega
  notExtended h := absurd (length_eq_of_lengthFields hlen h).2 (by decide)

/-! ## Commands and replies -/

/-- Any other command is carried by a frame around it. -/
theorem encode_eq_ok_iff : encode data = .ok frame ↔
    1 ≤ data.length ∧ data.length ≤ maxData ∧ frame = wrap (hostTfi :: data) := by
  refine ⟨fun h => ?_, ?_⟩
  · have hframe := eq_wrap_of_encode h
    have hfits (e : Error) : encode data ≠ .error e := by
      rw [h]
      nofun
    refine ⟨?_, ?_, hframe⟩
    · refine List.length_pos_iff.mpr fun hnone => hfits .invalidArgument ?_
      exact encode_eq_error_iff.mpr (.inl ⟨hnone, rfl⟩)
    · refine Nat.not_lt.mp fun hlong => hfits .deviceNotSupported ?_
      exact encode_eq_error_iff.mpr (.inr ⟨hlong, rfl⟩)
  · rintro ⟨hsome, hlen, rfl⟩
    exact encode_eq_ok (List.length_pos_iff.mp hsome) hlen

/-- The content of a frame that carries a command. -/
theorem length_command (h : data.length ≤ maxData) : (hostTfi :: data).length ≤ 255 :=
  Nat.succ_le_succ h

/-- The content of a frame that carries a reply. -/
theorem length_reply (command : UInt8) {params : Bytes} (h : params.length ≤ 253) :
    (chipTfi :: (command + 1) :: params).length ≤ 255 :=
  Nat.succ_le_succ (Nat.succ_le_succ h)

theorem encode_append_inj (hdata : encode data = .ok frame) (hdata' : encode data' = .ok frame')
    (h : frame ++ tail = frame' ++ tail') : data = data' ∧ tail = tail' := by
  obtain ⟨-, hlen, rfl⟩ := encode_eq_ok_iff.mp hdata
  obtain ⟨-, hlen', rfl⟩ := encode_eq_ok_iff.mp hdata'
  obtain ⟨hcontent, htail⟩ := wrap_append_inj (length_command hlen) (length_command hlen') h
  exact ⟨(List.cons.inj hcontent).2, htail⟩

variable {command command' : UInt8} {params params' : Bytes}

theorem encodeReply_append_inj (hlen : params.length ≤ 253) (hlen' : params'.length ≤ 253)
    (h : encodeReply command params ++ tail = encodeReply command' params' ++ tail') :
    command = command' ∧ params = params' ∧ tail = tail' := by
  obtain ⟨hcontent, htail⟩ :=
    wrap_append_inj (length_reply command hlen) (length_reply command' hlen') h
  obtain ⟨hcode, hparams⟩ := List.cons.inj (List.cons.inj hcontent).2
  exact ⟨UInt8.add_left_inj 1 |>.mp hcode, hparams, htail⟩

/-- What the host sends and what the chip answers differ in the identifier. -/
theorem encode_append_ne_encodeReply (hdata : encode data = .ok frame)
    (hlen : params.length ≤ 253) : frame ++ tail ≠ encodeReply command params ++ tail' := by
  intro h
  obtain ⟨-, hfits, rfl⟩ := encode_eq_ok_iff.mp hdata
  obtain ⟨hcontent, -⟩ := wrap_append_inj (length_command hfits) (length_reply command hlen) h
  exact absurd (List.cons.inj hcontent).1 (by decide)

end Frame

/-- **Frames of commands and of replies say where they end and are none of the special frames.**
Every command of 1 to 254 bytes has such a frame, and so has every reply with 253 parameters at
most.  Any other command is refused, and a link that is to send it fails with nothing done. -/
theorem frames_delimited {σ π : Type} [SerialPort σ] [BulkPipe π] :
    (∀ data data' frame frame' tail tail', Frame.encode data = .ok frame →
      Frame.encode data' = .ok frame' → frame ++ tail = frame' ++ tail' →
        data = data' ∧ tail = tail') ∧
    (∀ command command' params params' tail tail', params.length ≤ 253 → params'.length ≤ 253 →
      Frame.encodeReply command params ++ tail = Frame.encodeReply command' params' ++ tail' →
        command = command' ∧ params = params' ∧ tail = tail') ∧
    (∀ data frame command params tail tail', Frame.encode data = .ok frame →
      params.length ≤ 253 → frame ++ tail ≠ Frame.encodeReply command params ++ tail') ∧
    (∀ data, 1 ≤ data.length → data.length ≤ 254 →
      ∃ frame, Frame.encode data = .ok frame ∧ Frame.Unmistakable frame) ∧
    (∀ command params, params.length ≤ 253 →
      Frame.Unmistakable (Frame.encodeReply command params)) ∧
    ∀ data e, data = [] ∧ e = .invalidArgument ∨ 254 < data.length ∧ e = .deviceNotSupported →
      Frame.encode data = .error e ∧
      (∀ (link : Arygon.Link σ) timeout, (Arygon.Link.send data timeout).Fails link e link) ∧
      ∀ (link : Usb.Link π) timeout, (Usb.Link.send data timeout).Fails link e link := by
  refine ⟨fun _ _ _ _ _ _ hdata hdata' h => Frame.encode_append_inj hdata hdata' h,
    fun _ _ _ _ _ _ hlen hlen' h => Frame.encodeReply_append_inj hlen hlen' h,
    fun _ _ _ _ _ _ hdata hlen => Frame.encode_append_ne_encodeReply hdata hlen,
    fun data hsome hlen => ⟨_, Frame.encode_eq_ok_iff.mpr ⟨hsome, hlen, rfl⟩, ?_⟩,
    fun command params hlen => ?_, fun data e he => ?_⟩
  · exact Frame.unmistakable_wrap (Nat.succ_le_succ hsome) (Frame.length_command hlen)
  · have htwo : 2 ≤ (Frame.chipTfi :: (command + 1) :: params).length :=
      Nat.succ_le_succ (Nat.succ_le_succ (Nat.zero_le _))
    exact Frame.unmistakable_wrap htwo (Frame.length_reply command hlen)
  · have hrefused : Frame.encode data = .error e := Frame.encode_eq_error_iff.mpr he
    exact ⟨hrefused, fun _ _ => Arygon.Link.fails_send_refused hrefused _,
      fun _ _ => Usb.Link.fails_send_refused hrefused _⟩

end NearField
