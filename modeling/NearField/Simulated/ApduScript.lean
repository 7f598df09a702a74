import NearField.Pcsc.Feitian

/-!
# Scripted commands

An exchange of reader commands whose replies are written down beforehand.  When the script is
used up every command succeeds without data.
-/

namespace NearField.Simulated

/-- The replies to come, and the commands that were exchanged with their capacities. -/
structure ApduScript where
  replies : List (Except Error Bytes) := []
  sent : List (Bytes × Nat) := []

namespace ApduScript

/-- The status word of success. -/
def success : Bytes := [0x90, 0x00]

/-- Records a command and takes its reply. -/
def exchange : Pcsc.Feitian.Exchange ApduScript := fun apdu capacity => do
  let s ← get
  set (ApduScript.mk (s.replies.drop 1) (s.sent ++ [(apdu, capacity)]))
  Act.ofExcept (s.replies.headD (.ok success))

end ApduScript

end NearField.Simulated
