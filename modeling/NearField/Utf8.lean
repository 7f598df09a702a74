/-!
# UTF-8 scanning

A byte sequence is read as a run of encoded characters, interrupted by faults.  `Utf8.step`
reads the first item of a sequence; `Utf8.fault?` finds the first fault of a text that should
have none, and `Utf8.lossy` replaces every fault by U+FFFD.
-/

namespace NearField

/-- A sequence of bytes, as it crosses a wire. -/
abbrev Bytes := List UInt8

namespace Utf8

/-- What stands at the front of a byte sequence. -/
inductive Step where
  /-- A well-formed character and the number of bytes that encode it. -/
  | char (c : Char) (width : Nat)
  /-- A sequence that can not be continued to a character, and its length. -/
  | invalid (width : Nat)
  /-- The beginning of a character, cut off by the end of the bytes. -/
  | incomplete
  deriving DecidableEq, Repr

/-- The payload bits of a continuation byte. -/
def payload (b : UInt8) : Nat := b.toNat % 64

/-- Whether `b` continues a character. -/
def isContinuation (b : UInt8) : Bool := 0x80 ≤ b && b ≤ 0xBF

/-- Bounds on the second byte of a character that starts with `b`; they exclude overlong forms,
surrogates and code points above U+10FFFF. -/
def secondRange (b : UInt8) : UInt8 × UInt8 :=
  match b with
  | 0xE0 => (0xA0, 0xBF)
  | 0xED => (0x80, 0x9F)
  | 0xF0 => (0x90, 0xBF)
  | 0xF4 => (0x80, 0x8F)
  | _ => (0x80, 0xBF)

/-- Whether `c` may follow the lead byte `b`. -/
def isSecond (b c : UInt8) : Bool := (secondRange b).1 ≤ c && c ≤ (secondRange b).2

/-- Reads the bytes after the lead byte of a two-byte character. -/
def step2 (b : UInt8) : Bytes → Step
  | [] => .incomplete
  | c :: _ =>
    if isContinuation c then .char (Char.ofNat (b.toNat % 32 * 64 + payload c)) 2 else .invalid 1

/-- Reads the bytes after the lead byte of a three-byte character. -/
def step3 (b : UInt8) : Bytes → Step
  | [] => .incomplete
  | c :: rest =>
    if !isSecond b c then .invalid 1 else
    match rest with
    | [] => .incomplete
    | d :: _ =>
      if isContinuation d then
        .char (Char.ofNat ((b.toNat % 16 * 64 + payload c) * 64 + payload d)) 3
      else .invalid 2

/-- Reads the bytes after the lead byte of a four-byte character. -/
def step4 (b : UInt8) : Bytes → Step
  | [] => .incomplete
  | c :: rest =>
    if !isSecond b c then .invalid 1 else
    match rest with
    | [] => .incomplete
    | d :: rest =>
      if !isContinuation d then .invalid 2 else
      match rest with
      | [] => .incomplete
      | e :: _ =>
        if isContinuation e then
          .char (Char.ofNat (((b.toNat % 8 * 64 + payload c) * 64 + payload d) * 64 + payload e)) 4
        else .invalid 3

/-- Reads the item that the byte `b` begins, with `rest` behind it. -/
def step (b : UInt8) (rest : Bytes) : Step :=
  if b < 0x80 then .char (Char.ofNat b.toNat) 1
  else if 0xC2 ≤ b && b ≤ 0xDF then step2 b rest
  else if 0xE0 ≤ b && b ≤ 0xEF then step3 b rest
  else if 0xF0 ≤ b && b ≤ 0xF4 then step4 b rest
  else .invalid 1

/-- The first place where bytes stop being UTF-8; no width means that the end cuts a
character. -/
structure Fault where
  position : Nat
  width? : Option Nat
  deriving DecidableEq, Repr

/-- The wording of a fault. -/
def Fault.message (f : Fault) : String :=
  match f.width? with
  | some n =>
    "invalid utf-8 sequence of " ++ toString n ++ " bytes from index " ++ toString f.position
  | none => "incomplete utf-8 byte sequence from index " ++ toString f.position

/-- Finds the first fault at or after `position`, which is where the bytes start. -/
def faultFrom? (position : Nat) : Bytes → Option Fault
  | [] => none
  | b :: rest =>
    match step b rest with
    | .char _ n => faultFrom? (position + n) (rest.drop (n - 1))
    | .invalid n => some ⟨position, some n⟩
    | .incomplete => some ⟨position, none⟩
termination_by bs => bs.length
decreasing_by simp only [List.length_drop, List.length_cons]; omega

/-- The first fault of a byte sequence. -/
def fault? (bs : Bytes) : Option Fault := faultFrom? 0 bs

/-- Decodes bytes to characters; every fault becomes one U+FFFD. -/
def lossyChars : Bytes → List Char
  | [] => []
  | b :: rest =>
    match step b rest with
    | .char c n => c :: lossyChars (rest.drop (n - 1))
    | .invalid n => '\uFFFD' :: lossyChars (rest.drop (n - 1))
    | .incomplete => ['\uFFFD']
termination_by bs => bs.length
decreasing_by all_goals simp only [List.length_drop, List.length_cons]; omega

/-- Decodes bytes to text; every fault becomes one U+FFFD. -/
def lossy (bs : Bytes) : String := String.ofList (lossyChars bs)

/-- The bytes of a text. -/
def encode (s : String) : Bytes := s.toUTF8.toList

end Utf8

end NearField
