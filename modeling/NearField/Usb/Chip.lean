import NearField.Pn53x.Chip
import NearField.Usb.Link

/-!
# The chip of a dongle

The chip behind a USB link, with the timer correction of the dongle's model.
-/

namespace NearField.Usb

/-- The chip behind a link, before it was asked what it is. -/
def chip {σ : Type} (l : Link σ) : Pn53x.Chip (Link σ) :=
  { link := l, timerCorrection := l.model.timerCorrection }

end NearField.Usb
