import LineMark.Lexer

/-!
A source read without a cursor. `Piece.ofText` tells what stands at the head of an unread text,
`Reading.ofText` cuts a text into such pieces from left to right, and `Reading.outcome` is what the
pieces amount to.
-/

set_option autoImplicit false
set_option relaxedAutoImplicit false

namespace LineMark

/-- What stands at the head of an unread text. Places and widths count the characters after the
head. -/
inductive Piece
  /-- a character that belongs to no token -/
  | gap
  /-- a token, the place where it stands, and the number of characters after the head to pass over
  before the next piece -/
  | lexeme (kind : Token.Kind) (text : Text) (place width : Nat)
  /-- a marker, which ends the reading, and the place where its token stands -/
  | marker (kind : Token.Kind) (text : Text) (place : Nat)
  /-- a fault, which ends the reading, and its place -/
  | fault (fault : Fault) (place : Nat)
  deriving DecidableEq

namespace Piece

def ofQuote (tail : Text) : Piece :=
  let inside := tail.takeWhile (· ≠ '"')
  if inside.length < tail.length then
    .lexeme .stringLiteral inside (inside.length + 1) (inside.length + 1)
  else .fault .unterminatedString (tail.length + 1)

def ofEquals (tail : Text) : Piece :=
  if tail.head? = some '>' then .lexeme .arrow "=>".toList 1 1
  else .lexeme .equals "=".toList 0 0

/-- An integer, with the text after its first digit. Its token stands after it. -/
def ofDigit [Unicode.Database] (mode : Mode) (head : Char) (tail : Text) : Piece :=
  let digits := tail.takeWhile Unicode.isNumeric
  let width := if mode.skipAfterInteger then min (digits.length + 1) tail.length else digits.length
  .lexeme .intLiteral (head :: digits) (digits.length + 1) width

def ofLetter [Unicode.Database] (head : Char) (tail : Text) : Piece :=
  let letters := tail.takeWhile Unicode.isAlphanumeric
  .lexeme (Token.Word.kind (head :: letters)) (head :: letters) (letters.length + 1) letters.length

/-- A strict marker, with the text after it: white space, then marks and line breaks to the end of
the text, where its token stands. -/
def ofStrictMarker (tail : Text) : Piece :=
  let blanks := tail.takeWhile Unicode.isWhitespace
  let after := tail.drop blanks.length
  let trailers := after.takeWhile fun c => c = '!' ∨ c = '\n'
  if trailers.length < after.length then
    .fault .deadCode (blanks.length + trailers.length + 1)
  else .marker .endOfLine ('!' :: after) (tail.length + 1)

/-- A debug marker, with the text after it: white space, then the end of the text or a line break.
Its token stands after the white space and after that line break. -/
def ofDebugMarker (mode : Mode) (tail : Text) : Piece :=
  let blanks := tail.takeWhile fun c =>
    Unicode.isWhitespace c && (mode.markerCrossesLines || c != '\n')
  match tail.drop blanks.length with
  | [] => .marker .debugEndOfLine "?".toList (blanks.length + 1)
  | '\n' :: _ => .marker .debugEndOfLine "?".toList (blanks.length + 2)
  | _ :: _ => .fault .deadCode (blanks.length + 1)

def ofText [Unicode.Database] (mode : Mode) (head : Char) (tail : Text) : Piece :=
  if Unicode.isWhitespace head then .gap
  else
    match Token.CharClass.punctuationKinds.lookup head with
    | some kind => .lexeme kind [head] 0 0
    | none =>
      if head = '"' then ofQuote tail
      else if head = '=' then ofEquals tail
      else if head = '!' then ofStrictMarker tail
      else if head = '?' then ofDebugMarker mode tail
      else if Unicode.isNumeric head then ofDigit mode head tail
      else if Unicode.isAlphabetic head then ofLetter head tail
      else .gap

/-- The number of characters after the head that the piece takes, or nothing when it ends the
reading. -/
def width? : Piece → Option Nat
  | gap => some 0
  | lexeme _ _ _ width => some width
  | marker _ _ _ | fault _ _ => none

end Piece

abbrev Reading := List (Nat × Piece)

namespace Reading

def ofText [Unicode.Database] (mode : Mode) (offset : Nat) (text : Text) : Reading :=
  match text with
  | [] => []
  | head :: tail =>
    let piece := Piece.ofText mode head tail
    match piece.width? with
    | some width => (offset, piece) :: ofText mode (offset + width + 1) (tail.drop width)
    | none => [(offset, piece)]
termination_by text.length
decreasing_by
  simp only [List.length_drop, List.length_cons]
  omega

def token? (source : Text) (file : Option Text) : Nat × Piece → Option Token
  | (offset, .lexeme kind text place _) | (offset, .marker kind text place) =>
    some ⟨kind, text, .ofOffset source (offset + place : Nat) file⟩
  | _ => none

def tokens (source : Text) (file : Option Text) (reading : Reading) : List Token :=
  reading.filterMap (token? source file)

/-- What a reading of the whole source amounts to: its fault if it has one, and else its tokens, if
there are none or a marker ends them. -/
def outcome (source : Text) (file : Option Text) (reading : Reading) : Outcome :=
  match reading.getLast? with
  | some (offset, .fault fault place) =>
    .error ⟨fault, .ofOffset source (offset + place : Nat) file⟩
  | some (_, .marker ..) => .tokens (reading.tokens source file)
  | _ =>
    if reading.tokens source file = [] then .tokens []
    else .error ⟨.unterminatedLine, .ofOffset source source.length file⟩

def ofSource [Unicode.Database] (mode : Mode) (source : Text) : Reading :=
  ofText mode 0 source

end Reading

end LineMark
