import LineMark.Text.Numeral
import LineMark.Unicode.Database

/-!
Texts between double quotes on one line. A backslash announces every code point that would end the
quotation, break the line or stay invisible, and `unquote` reads such a quotation back. Texts of
characters are quoted as texts of code points: their quotations consist of characters again, since
halves of pairs are among what is written as a numeral.
-/

set_option autoImplicit false
set_option relaxedAutoImplicit false

namespace LineMark

/-- A text in which halves of pairs may stand by themselves. -/
abbrev CodeText := List CodePoint

def Text.toCodeText (text : Text) : CodeText :=
  text.map .ofChar

namespace CodeText

def escapes : List (CodePoint × Char) :=
  [('\\', '\\'), ('"', '"'), ('\n', 'n'), ('\r', 'r'), ('\t', 't'), ('\x00', '0')]

/-- The form of one code point inside the quotes: its own escape, else its value in braces when it
is unprintable, else the code point itself. -/
def escape [Unicode.Database] (point : CodePoint) : CodeText :=
  match escapes.lookup point with
  | some letter => ['\\', letter]
  | none =>
    if Unicode.isUnprintable point then
      '\\' :: 'u' :: '\x7b' :: ((Text.Numeral.hex point.value).toCodeText ++ [.ofChar '\x7d'])
    else
      [point]

def quote [Unicode.Database] (text : CodeText) : CodeText :=
  .ofChar '"' :: text.flatMap escape ++ [.ofChar '"']

def unescape? (letter : CodePoint) : Option CodePoint :=
  (escapes.find? fun entry => entry.2 = letter).map (·.1)

def readBraces? : CodeText → Option (CodePoint × Nat)
  | [] => none
  | brace :: rest =>
    if brace = '\x7b' then do
      let digits := rest.takeWhile (· ≠ .ofChar '\x7d')
      let point ← CodePoint.ofNat? (Text.Numeral.ofHex (← digits.mapM CodePoint.toChar?))
      return (point, digits.length + 2)
    else none

/-- Reads the form of one code point, and tells how much it took of the text after its head. -/
def readForm? (head : CodePoint) (tail : CodeText) : Option (CodePoint × Nat) :=
  if head = '"' then none
  else if head = '\\' then
    match tail with
    | [] => none
    | letter :: rest =>
      if letter = 'u' then do
        let (point, width) ← readBraces? rest
        return (point, width + 1)
      else (·, 1) <$> unescape? letter
  else some (head, 0)

def unquoteTail (text : CodeText) : Option CodeText :=
  match text with
  | [] => none
  | head :: tail =>
    if head = '"' ∧ tail = [] then some []
    else do
      let (point, width) ← readForm? head tail
      return point :: (← unquoteTail (tail.drop width))
termination_by text.length
decreasing_by
  simp only [List.length_cons, List.length_drop]
  omega

def unquote : CodeText → Option CodeText
  | [] => none
  | first :: rest => if first = '"' then unquoteTail rest else none

end CodeText

def Text.Quoted.encode [Unicode.Database] (text : Text) : Text :=
  text.toCodeText.quote.filterMap CodePoint.toChar?

end LineMark
