import LineMark.Text.Basic

/-!
Requests that have no answer, as opposed to errors in a source.
-/

set_option autoImplicit false
set_option relaxedAutoImplicit false

namespace LineMark

inductive Misuse
  | outOfRange
  | notPunctuation (c : Char)
  | unknownLexer (name : Text)
  | nothingEntered
  deriving DecidableEq

end LineMark
