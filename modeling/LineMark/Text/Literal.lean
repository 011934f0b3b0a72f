import LineMark.Text.Numeral
import LineMark.Unicode.Database

/-!
Texts as literals for a diagnostic view. Single quotes are preferred, and whatever a reader could
not see is written as a code point of two, four or eight hexadecimal digits.
-/

set_option autoImplicit false
set_option relaxedAutoImplicit false

namespace LineMark.Text.Literal

def singleQuote : Char := '\x27'

/-- The quote around a text: double only where the text holds single quotes and no double one. -/
def delimiter (text : Text) : Char :=
  if text.contains singleQuote && !text.contains '"' then '"' else singleQuote

variable [Unicode.Database]

/-- Whether a literal writes the character as a code point: it is unprintable, or a space other
than the plain one. -/
def isHidden (c : Char) : Bool :=
  Unicode.isUnprintable c || (Unicode.isSpaceSeparator c && c != ' ')

def codePoint (c : Char) : Text :=
  let point := c.toNat
  if point < 0x100 then "\\x".toList ++ Numeral.hexPadded 2 point
  else if point < 0x10000 then "\\u".toList ++ Numeral.hexPadded 4 point
  else "\\U".toList ++ Numeral.hexPadded 8 point

def escape (quote c : Char) : Text :=
  if c = quote ∨ c = '\\' then ['\\', c]
  else if c = '\n' then "\\n".toList
  else if c = '\r' then "\\r".toList
  else if c = '\t' then "\\t".toList
  else if isHidden c then codePoint c
  else [c]

def encode (text : Text) : Text :=
  let quote := delimiter text
  quote :: text.flatMap (escape quote) ++ [quote]

end LineMark.Text.Literal
