import NearField.Device.Selection

/-!
# A device as a reader

The whole table of operations through a device.
-/

namespace NearField.Device

variable {σ : Type} [Reader σ]

instance : Reader (Device σ) where
  describe? d e := Reader.describe? d.backend e
  initiatorInit := initiatorInit
  secureElementInit := dispatch Reader.secureElementInit
  selectPassive := selectPassive
  pollTarget ms rounds period := dispatch (Reader.pollTarget ms rounds period)
  pollChecked ms rounds period := dispatchChecked (Reader.pollChecked ms rounds period)
  selectDep := selectDep
  deselect := deselect
  transceiveBytes tx capacity timeout := dispatch (Reader.transceiveBytes tx capacity timeout)
  transceiveBits tx capacity := dispatch (Reader.transceiveBits tx capacity)
  transceiveBytesTimed tx capacity := dispatch (Reader.transceiveBytesTimed tx capacity)
  transceiveBitsTimed tx capacity := dispatch (Reader.transceiveBitsTimed tx capacity)
  targetIsPresent t := dispatch (Reader.targetIsPresent t)
  targetInit := targetInit
  targetSendBytes tx timeout := dispatch (Reader.targetSendBytes tx timeout)
  targetReceiveBytes capacity timeout := dispatch (Reader.targetReceiveBytes capacity timeout)
  targetSendBits tx := dispatch (Reader.targetSendBits tx)
  targetReceiveBits capacity := dispatch (Reader.targetReceiveBits capacity)
  setBool := setBool
  setInt := setInt
  families := families
  baudRates := baudRates
  information := dispatch Reader.information
  signal? d := Reader.signal? d.backend
  raiseSignal := map Reader.raiseSignal
  clock d := Reader.clock d.backend
  abortCommand := dispatch Reader.abortCommand
  idle := dispatch Reader.idle
  powerDown := dispatch Reader.powerDown
  close := close

end NearField.Device
