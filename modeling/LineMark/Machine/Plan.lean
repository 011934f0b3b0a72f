import LineMark.Machine.Scanner

/-!
What the scanners do, decided beforehand: the plan for a character is the list of acts that its
scanner will have done, told from the character and the text after it without a cursor.
-/

set_option autoImplicit false
set_option relaxedAutoImplicit false

namespace LineMark.Machine

def planString (tail : Text) : List Act :=
  .advance 1 ::
    match tail.dropWhile (· ≠ '"') with
    | [] => [.advance tail.length, .fail .unterminatedString]
    | _ :: _ =>
      let inside := tail.takeWhile (· ≠ '"')
      [.advance inside.length, .emit .stringLiteral inside]

def planPunctuation (head : Char) : Except Misuse (List Act) :=
  match Token.CharClass.punctuationKinds.lookup head with
  | some kind => .ok [.emit kind [head]]
  | none => .error (.notPunctuation head)

def planEquals (tail : Text) : List Act :=
  if tail.head? = some '>' then [.advance 1, .emit .arrow "=>".toList]
  else [.emit .equals "=".toList]

def planStrictMarker (head : Char) (tail : Text) : List Act :=
  let after := tail.dropWhile Unicode.isWhitespace
  let trailers := after.takeWhile isStrictTrailer
  [.read 1, .skip {}] ++ List.replicate trailers.length (.read 1) ++
    match after.dropWhile isStrictTrailer with
    | [] => [.emit .endOfLine (head :: trailers), .terminate]
    | _ :: _ => [.fail .deadCode]

def planDebugMarker (mode : Mode) (head : Char) (tail : Text) : List Act :=
  [.read 1, .skip (debugSkip mode)] ++
    match tail.dropWhile (Cursor.skips (debugSkip mode)) with
    | [] => [.emit .debugEndOfLine [head], .terminate]
    | c :: _ =>
      if c = '\n' then [.advance 1, .emit .debugEndOfLine [head], .terminate]
      else [.fail .deadCode]

variable [Unicode.Database]

def planInteger (mode : Mode) (head : Char) (tail : Text) : List Act :=
  let digits := (head :: tail).takeWhile Unicode.isNumeric
  List.replicate digits.length (.advance 1) ++ [.emit .intLiteral digits] ++
    if mode.skipAfterInteger then [] else [.retreat 1]

def planWord (head : Char) (tail : Text) : List Act :=
  let word := head :: tail.takeWhile Unicode.isAlphanumeric
  List.replicate word.length (.advance 1) ++ [.emit (Token.Word.kind word) word, .retreat 1]

/-- The acts on meeting a character, with the text after it at hand. -/
def plan (mode : Mode) (head : Char) (tail : Text) : Except Misuse (List Act) :=
  match Token.CharClass.ofChar head with
  | .space | .skip => .ok []
  | .quote => .ok (planString tail)
  | .punctuation => planPunctuation head
  | .equals => .ok (planEquals tail)
  | .strictMarker => .ok (planStrictMarker head tail)
  | .debugMarker => .ok (planDebugMarker mode head tail)
  | .digit => .ok (planInteger mode head tail)
  | .letter => .ok (planWord head tail)

end LineMark.Machine
