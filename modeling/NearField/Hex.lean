import NearField.Utf8

/-!
# Hexadecimal text

Bytes are written as pairs of lowercase digits, with or without a space between pairs, and read
back ignoring ASCII whitespace.
-/

namespace NearField.Hex

/-- The lowercase digit for a value below sixteen. -/
def digit (n : Nat) : Char := if n < 10 then Char.ofNat (48 + n) else Char.ofNat (87 + n)

/-- The uppercase digit for a value below sixteen. -/
def upperDigit (n : Nat) : Char := if n < 10 then Char.ofNat (48 + n) else Char.ofNat (55 + n)

/-- The two lowercase digits of a byte. -/
def pair (b : UInt8) : List Char := [digit (b.toNat / 16), digit (b.toNat % 16)]

/-- The digits of a byte sequence, without separators. -/
def compactChars (bs : Bytes) : List Char := bs.flatMap pair

/-- The digits of a byte sequence, one space between bytes. -/
def spacedChars : Bytes → List Char
  | [] => []
  | [b] => pair b
  | b :: rest => pair b ++ ' ' :: spacedChars rest

/-- Writes bytes as lowercase digits without separators. -/
def compact (bs : Bytes) : String := String.ofList (compactChars bs)

/-- Writes bytes as lowercase digits, one space between bytes. -/
def spaced (bs : Bytes) : String := String.ofList (spacedChars bs)

/-- Writes a byte as `0x` and two uppercase digits. -/
def literal (b : UInt8) : String :=
  String.ofList ['0', 'x', upperDigit (b.toNat / 16), upperDigit (b.toNat % 16)]

/-- The uppercase hexadecimal digits of a number, least significant first; `width` digits at
most. -/
def upperDigitsRev : Nat → Nat → List Char
  | 0, _ => []
  | width + 1, n => upperDigit (n % 16) :: upperDigitsRev width (n / 16)

/-- Writes a number as `0x` and exactly eight uppercase digits. -/
def literal32 (n : UInt32) : String :=
  String.ofList ('0' :: 'x' :: (upperDigitsRev 8 n.toNat).reverse)

/-- Space, tab, line feed, form feed and carriage return. -/
def isBlank (b : UInt8) : Bool :=
  b == 0x20 || b == 0x09 || b == 0x0A || b == 0x0C || b == 0x0D

/-- The value of an ASCII hexadecimal digit of either case. -/
def value? (b : UInt8) : Option Nat :=
  if 0x30 ≤ b && b ≤ 0x39 then some (b.toNat - 0x30)
  else if 0x41 ≤ b && b ≤ 0x46 then some (b.toNat - 0x37)
  else if 0x61 ≤ b && b ≤ 0x66 then some (b.toNat - 0x57)
  else none

/-- Why a text is not a sequence of hexadecimal bytes. -/
inductive Fault where
  /-- A digit has no partner. -/
  | oddLength
  /-- A pair cuts through an encoded character. -/
  | encoding (fault : Utf8.Fault)
  /-- A pair holds something other than digits. -/
  | badPair (pair : String)
  deriving DecidableEq, Repr

/-- The wording of a fault. -/
def Fault.message : Fault → String
  | .oddLength => "hex string has odd length"
  | .encoding f => f.message
  | .badPair p => "invalid hex pair '" ++ p ++ "': invalid digit found in string"

/-- The number that a pair denotes: two digits, or a plus sign and one digit. -/
def pairValue? (x y : UInt8) : Option UInt8 :=
  match value? y with
  | none => none
  | some low =>
    if x == 0x2B then some (UInt8.ofNat low)
    else (value? x).map fun high => UInt8.ofNat (16 * high + low)

/-- Reads one pair. -/
def parsePair (x y : UInt8) : Except Fault UInt8 :=
  match Utf8.fault? [x, y] with
  | some f => .error (.encoding f)
  | none =>
    match pairValue? x y with
    | some b => .ok b
    | none => .error (.badPair (Utf8.lossy [x, y]))

/-- Reads pairs from the left; the first fault wins. -/
def parsePairs : Bytes → Except Fault Bytes
  | x :: y :: rest =>
    match parsePair x y with
    | .error f => .error f
    | .ok b =>
      match parsePairs rest with
      | .error f => .error f
      | .ok bs => .ok (b :: bs)
  | [_] => .error .oddLength
  | [] => .ok []

/-- Reads the digits that remain when blanks are left out; an odd count is refused before any
pair is read. -/
def parseBytes (text : Bytes) : Except Fault Bytes :=
  let digits := text.filter fun b => !isBlank b
  if digits.length % 2 = 1 then .error .oddLength else parsePairs digits

/-- Reads hexadecimal text, ignoring ASCII whitespace. -/
def parse (text : String) : Except Fault Bytes := parseBytes (Utf8.encode text)

end NearField.Hex
