/-!
The two choices that a scan leaves open.
-/

set_option autoImplicit false
set_option relaxedAutoImplicit false

namespace LineMark

/-- How a scan treats what follows an integer and what follows a debug marker. -/
structure Mode where
  /-- whether the character right after an integer is passed over unread -/
  skipAfterInteger : Bool
  /-- whether the white space skipped after a debug marker may hold line breaks -/
  markerCrossesLines : Bool
  deriving DecidableEq, Repr

end LineMark
