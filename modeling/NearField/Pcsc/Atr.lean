import NearField.Target

/-!
# Answers to reset

Readers make up an answer to reset for contactless cards.  Its shape tells the family, and its
bytes tell something about the card.
-/

namespace NearField.Pcsc.Atr

/-- The longest answer to reset. -/
def maxSize : Nat := 33

/-- The card type of a reader that does not know it. -/
def iccUnknown : UInt8 := 0

/-- The card type of ISO/IEC 14443 type A. -/
def iccTypeA : UInt8 := 5

/-- The card type of ISO/IEC 14443 type B. -/
def iccTypeB : UInt8 := 6

/-- Whether a reported card type agrees with an expected one; an unknown type agrees with
any. -/
def iccMatches (icc expected : UInt8) : Bool := icc == iccUnknown || icc == expected

/-- The shape of type A: `3B 8n 80 01`, then historical bytes, then a check byte. -/
def isTypeA : Bytes → Bool
  | 0x3B :: t0 :: 0x80 :: 0x01 :: rest =>
    1 ≤ rest.length && t0 == 0x80 ||| UInt8.ofNat (rest.length - 1)
  | _ => false

/-- The shape of type B: `3B 88 80 01`, then four bytes of application data, three of protocol
information, one more and a check byte. -/
def isTypeB : Bytes → Bool
  | 0x3B :: 0x88 :: 0x80 :: 0x01 :: rest => rest.length == 9
  | _ => false

/-- Whether an identifier of type A has one of its three sizes, or is absent. -/
def isUidA (uid : Bytes) : Bool := [0, 4, 7, 10].contains uid.length

/-- Whether an identifier of type B has its size, or is absent. -/
def isUidB (uid : Bytes) : Bool := [0, 8].contains uid.length

/-- The answer to select that stands in front of historical bytes. -/
def atsIntro : Bytes := [0x75, 0x77, 0x81, 0x02]

/-- What an answer of type A tells: an answer to select rebuilt from its historical bytes. -/
def infoA (atr uid : Bytes) : Iso14443aInfo where
  atqa := #v[0x00, 0x00]
  sak := 0x20
  uid := uid
  ats := atsIntro ++ (atr.drop 4).dropLast

/-- What an answer of type B tells. -/
def infoB (atr : Bytes) : Iso14443bInfo :=
  let at' (i : Nat) : UInt8 := atr.getD i 0
  { pupi := .replicate 4 0
    applicationData := #v[at' 4, at' 5, at' 6, at' 7]
    protocolInfo := #v[at' 8, 0x01, at' 10]
    cardIdentifier := 0 }

end NearField.Pcsc.Atr
