import LineMark.Datum
import LineMark.Mode

/-!
Settings of a lexer. They are taken from records as they come, and decide a mode by the truth of
their values.
-/

set_option autoImplicit false
set_option relaxedAutoImplicit false

namespace LineMark

/-- The settings of a lexer, not checked for their types. -/
structure Settings where
  skipAfterInteger : Datum
  markerCrossesLines : Datum

namespace Settings

def default : Settings where
  skipAfterInteger := .bool true
  markerCrossesLines := .bool false

def skipAfterIntegerKey : Text := "skip_after_integer".toList

def markerCrossesLinesKey : Text := "debug_marker_crosses_lines".toList

/-- Settings from the fields of a record: a missing key means the default, and other keys do not
matter. -/
def ofFields (fields : List (Text × Datum)) : Settings where
  skipAfterInteger := (fields.lookup skipAfterIntegerKey).getD default.skipAfterInteger
  markerCrossesLines := (fields.lookup markerCrossesLinesKey).getD default.markerCrossesLines

def ofDatum? : Datum → Option Settings
  | .record fields => some (ofFields fields)
  | _ => none

def mode (settings : Settings) : Mode where
  skipAfterInteger := settings.skipAfterInteger.isTruthy
  markerCrossesLines := settings.markerCrossesLines.isTruthy

def isDefault (settings : Settings) : Bool :=
  settings.skipAfterInteger.equalsFlag true && settings.markerCrossesLines.equalsFlag false

def diagnostic [Unicode.Database] (settings : Settings) : Text :=
  "LexConfig(".toList ++ skipAfterIntegerKey ++ '=' :: settings.skipAfterInteger.literal ++
    ", ".toList ++ markerCrossesLinesKey ++ '=' :: settings.markerCrossesLines.literal ++
    ")".toList

end Settings

end LineMark
