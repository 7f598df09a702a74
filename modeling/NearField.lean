import NearField.BoundedCopy
import NearField.ConnString
import NearField.Device.Reader
import NearField.Frame
import NearField.Iso14443
import NearField.Pcsc.SharedContext
import NearField.Simulated.ApduScript
import NearField.Simulated.Trace
import NearField.Target.Json
import NearField.Usb.Chip
import NearField.Proofs.Act
import NearField.Proofs.ConnString
import NearField.Proofs.Context.Opening
import NearField.Proofs.Frame.Reply
import NearField.Proofs.Arygon.Stream
import NearField.Proofs.Interruption
import NearField.Proofs.Receivers
import NearField.Proofs.Device.Bracket
import NearField.Proofs.Device.Call
import NearField.Proofs.Device.Search
import NearField.Proofs.Device.LastError
import NearField.Proofs.Device.Listing
import NearField.Proofs.Pn53x.Exchange
import NearField.Proofs.Pn53x.Shadow
import NearField.Proofs.Device.Alike
import NearField.Proofs.Arygon.Exchange
import NearField.Proofs.Arygon.Steps
import NearField.Proofs.Arygon.Prompt
import NearField.Proofs.Arygon.Interruption
import NearField.Proofs.Serial.Sliced
import NearField.Proofs.Arygon.Endless
import NearField.Proofs.Arygon.Resync
import NearField.Proofs.Usb.Exchange
import NearField.Proofs.Usb.Interruption
import NearField.Proofs.Accounting
import NearField.Proofs.Usb.Cancel
import NearField.Proofs.Pn53x.Paired
import NearField.Proofs.Pn53x.Call
import NearField.Proofs.Transports
import NearField.Proofs.Pn53x.Unbounded
import NearField.Proofs.Device.Unbounded
import NearField.Proofs.ConnString.Built
import NearField.Proofs.Noted
import NearField.Proofs.Pcsc.Scan
import NearField.Proofs.Arygon.Scan
import NearField.Proofs.Scans
import NearField.Proofs.Pcsc.Place
import NearField.Proofs.Context.Listing
import NearField.Proofs.Checked
import NearField.Proofs.Pn53x.Reading
import NearField.Proofs.Pn53x.Guarded
import NearField.Proofs.Pn53x.InRange
import NearField.Proofs.Arygon.InRange
import NearField.Proofs.Frame.InRange
import NearField.Proofs.Usb.InRange
import NearField.Proofs.InRange
import NearField.Proofs.Pn53x.ModeRegisters
import NearField.Proofs.Device.ErrorText
import NearField.Proofs.Pcsc.ErrorText
import NearField.Proofs.Capacity
import NearField.Proofs.Pn53x.Truthful
import NearField.Proofs.Pn53x.Current
import NearField.Proofs.Context.Holding
import NearField.Proofs.Log.Silence
import NearField.Proofs.Pcsc.Sharing
import NearField.Proofs.Delimited
import NearField.Proofs.Pn53x.Polling
import NearField.Proofs.Pn53x.Allowance
import NearField.Proofs.Pn53x.PollTime
import NearField.Proofs.Pn53x.Rounds
import NearField.Proofs.Pn53x.Counting
import NearField.Proofs.Device.Restoring
import NearField.Proofs.Pn53x.Layout
import NearField.Proofs.Pn53x.Reselection
import NearField.Proofs.Device.Selecting
import NearField.Proofs.Pn53x.BitFraming
import NearField.Proofs.Arygon.Recovery
import NearField.Proofs.Pcsc.Shape
import NearField.Proofs.Pcsc.Presence
import NearField.Proofs.Pcsc.Items
import NearField.Proofs.Pcsc.Opcodes
import NearField.Proofs.Pcsc.Routing
import NearField.Proofs.Frame.Damage
import NearField.Proofs.Checksum.Register
import NearField.Proofs.Pcsc.ShortCommand
import NearField.Proofs.Checksum.Burst
import NearField.Proofs.Pcsc.Limited
import NearField.Proofs.Arygon.Probing
import NearField.Proofs.Hex
import NearField.Proofs.Pcsc.Historical
import NearField.Proofs.Pn53x.Announced
import NearField.Proofs.Target.Json
import NearField.Proofs.Pn53x.TimeoutCode
import NearField.Proofs.Pcsc.Unrefused
