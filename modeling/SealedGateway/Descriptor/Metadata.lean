import SealedGateway.Decimal.Shortest

/-!
# Rendering hints

A media file or a sticker can carry hints: whether it moves, its size in pixels and how long it
plays.  A duration is never negative and always a number.
-/

namespace SealedGateway

/-- A length of time that is a number and not negative; it may be infinite. -/
structure Duration where
  /-- The length in seconds. -/
  seconds : Binary64
  isNonnegative : seconds.isNonnegative = true
deriving DecidableEq

/-- Hints for showing a media file or a sticker. -/
structure Metadata where
  /-- Whether the image moves. -/
  animated : Option Bool
  /-- The height in pixels. -/
  height : Option Nat
  /-- The width in pixels. -/
  width : Option Nat
  /-- How long the sound or the video plays. -/
  duration : Option Duration
deriving DecidableEq

/-- No hint at all. -/
def Metadata.empty : Metadata := ⟨none, none, none, none⟩

end SealedGateway
