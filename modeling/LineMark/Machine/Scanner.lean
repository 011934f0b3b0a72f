import LineMark.Machine.Program
import LineMark.Mode
import LineMark.Token.CharClass
import LineMark.Token.Word

/-!
The scanners. Each is entered with the cursor on the character that it is chosen by, and one that
leaves the machine scanning leaves the cursor on the last character that it takes, for the scan then
advances by one. Loops are bounded by the number of unread characters, each pass taking one.
-/

set_option autoImplicit false
set_option relaxedAutoImplicit false

namespace LineMark

namespace Program

def advanceWhile (property : Char → Bool) : Nat → Program Unit
  | 0 => .done ()
  | limit + 1 => do
    if ← hasRemaining then
      if (← peek).any property then
        advance 1
        advanceWhile property limit

end Program

namespace Machine

open Program

/-- A string reaches to the next quote and knows no escapes; its token stands on that quote. -/
def scanString : Program Unit := do
  advance 1
  let start ← offset
  match ← find? '"' start with
  | none =>
    advance (← remainingLength).toNat
    fail .unterminatedString
  | some stop =>
    advance (stop - start).toNat
    emit .stringLiteral (← slice start stop)

def scanPunctuation (head : Char) : Program Unit :=
  match Token.CharClass.punctuationKinds.lookup head with
  | some kind => emit kind [head]
  | none => .abort (.notPunctuation head)

/-- An equals sign is a token by itself, or an arrow together with the `>` after it. -/
def scanEquals : Program Unit := do
  if (← peekAt 1) = some '>' then
    advance 1
    emit .arrow "=>".toList
  else
    emit .equals "=".toList

/-- An integer is a run of numeric characters. Its token stands after the run, and only a scan
that does not skip after integers steps back onto the run. -/
def scanInteger [Unicode.Database] (mode : Mode) : Program Unit := do
  let start ← offset
  advanceWhile Unicode.isNumeric (← remainingLength).toNat
  emit .intLiteral (← slice start (← offset))
  if !mode.skipAfterInteger then retreat 1

/-- A word is a letter and the alphanumeric characters after it. Its token stands after it. -/
def scanWord [Unicode.Database] : Program Unit := do
  let start ← offset
  advance 1
  advanceWhile Unicode.isAlphanumeric (← remainingLength).toNat
  let word ← slice start (← offset)
  emit (Token.Word.kind word) word
  retreat 1

def strictTrailers : Text := ['!', '\n']

def isStrictTrailer (c : Char) : Bool :=
  strictTrailers.contains c

/-- Reads what follows a strict marker to the end of the source, or fails at the first character
that may not follow it. -/
def readTrailers : Nat → Program Text
  | 0 => return []
  | limit + 1 => do
    if ← hasRemaining then
      if (← peek).any isStrictTrailer then
        return (← read 1) ++ (← readTrailers limit)
      else
        fail .deadCode
        return []
    else
      return []

/-- After a strict marker and white space, only trailers may follow to the end of the source. They
belong to the token. -/
def scanStrictMarker : Program Unit := do
  let mark ← read 1
  skip {}
  let trailers ← readTrailers (← remainingLength).toNat
  emit .endOfLine (mark ++ trailers)
  terminate

def debugSkip (mode : Mode) : SkipOptions :=
  { stopAtNewline := !mode.markerCrossesLines }

/-- After a debug marker and white space, the source must end or a line break follow. What comes
after that line break is never read. -/
def scanDebugMarker (mode : Mode) : Program Unit := do
  let mark ← read 1
  skip (debugSkip mode)
  if ← hasRemaining then
    if (← peek) = some '\n' then advance 1 else fail .deadCode
  emit .debugEndOfLine mark
  terminate

def scanner [Unicode.Database] (mode : Mode) (head : Char) : Program Unit :=
  match Token.CharClass.ofChar head with
  | .space | .skip => .done ()
  | .quote => scanString
  | .punctuation => scanPunctuation head
  | .equals => scanEquals
  | .strictMarker => scanStrictMarker
  | .debugMarker => scanDebugMarker mode
  | .digit => scanInteger mode
  | .letter => scanWord

end Machine

end LineMark
