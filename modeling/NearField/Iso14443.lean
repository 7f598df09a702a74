import NearField.Utf8

/-!
# ISO/IEC 14443 layouts

The layout of a unique identifier during anticollision, and the place of the historical bytes
in an answer to select.
-/

namespace NearField.Iso14443

/-- The byte that announces that an identifier goes on in the next cascade level. -/
def cascadeTag : UInt8 := 0x88

/-- The wire layout of an identifier: single size is sent as it is, double size behind one
cascade tag, triple size behind two.  Any other length gives no bytes. -/
def cascade (uid : Bytes) : Bytes :=
  if uid.length = 4 then uid
  else if uid.length = 7 then cascadeTag :: uid
  else if uid.length = 10 then cascadeTag :: uid.take 3 ++ cascadeTag :: uid.drop 3
  else []

/-- How many interface bytes the format byte announces. -/
def interfaceBytes (t0 : UInt8) : Nat :=
  ([0x10, 0x20, 0x40].filter fun bit => t0 &&& bit != 0).length

/-- The historical bytes of an answer to select given without its length byte; none if nothing
follows the interface bytes. -/
def historicalBytes? : Bytes → Option Bytes
  | [] => none
  | t0 :: rest =>
    let historical := rest.drop (interfaceBytes t0)
    if historical.isEmpty then none else some historical

end NearField.Iso14443
