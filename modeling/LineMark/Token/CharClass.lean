import LineMark.Token.Kind
import LineMark.Unicode.Database

/-!
The class of a character decides what a scan does when it meets the character at the start of a
token. Symbols come first, then numbers, then letters; every other character is passed over.
-/

set_option autoImplicit false
set_option relaxedAutoImplicit false

namespace LineMark.Token

inductive CharClass
  | space
  | quote
  | punctuation
  | equals
  | strictMarker
  | debugMarker
  | digit
  | letter
  | skip
  deriving DecidableEq, Repr

namespace CharClass

def all : List CharClass :=
  [space, quote, punctuation, equals, strictMarker, debugMarker, digit, letter, skip]

theorem mem_all (cls : CharClass) : cls ∈ all := by
  cases cls <;> decide

def name : CharClass → String
  | space => "SPACE"
  | quote => "STRING"
  | punctuation => "PUNCTUATION"
  | equals => "EQUALS"
  | strictMarker => "STRICT_EOL"
  | debugMarker => "DEBUG_EOL"
  | digit => "DIGIT"
  | letter => "LETTER"
  | skip => "SKIP"

def punctuationKinds : List (Char × Kind) :=
  [('(', .leftParen), (')', .rightParen), ('\x7b', .leftBrace), ('\x7d', .rightBrace),
    (',', .comma), (';', .negation)]

def symbols : List (Char × CharClass) :=
  [(' ', space), ('"', quote), ('=', equals), ('!', strictMarker), ('?', debugMarker)] ++
    punctuationKinds.map fun entry => (entry.1, punctuation)

/-- The class of a character. A character that is both numeric and alphabetic is a digit. -/
def ofChar [Unicode.Database] (c : Char) : CharClass :=
  match symbols.lookup c with
  | some cls => cls
  | none =>
    if Unicode.isNumeric c then digit
    else if Unicode.isAlphabetic c then letter
    else skip

end CharClass

structure CharTraits where
  isWhitespace : Bool
  isNumeric : Bool
  isAlphabetic : Bool
  isAlphanumeric : Bool
  charClass : CharClass

namespace CharTraits

/-- The traits of a character. -/
def ofChar [Unicode.Database] (c : Char) : CharTraits where
  isWhitespace := Unicode.isWhitespace c
  isNumeric := Unicode.isNumeric c
  isAlphabetic := Unicode.isAlphabetic c
  isAlphanumeric := Unicode.isAlphanumeric c
  charClass := CharClass.ofChar c

/-- The traits of a text of at most one character: the empty text has no property and is passed
over, and a longer text has no traits. -/
def ofText? [Unicode.Database] : Text → Option CharTraits
  | [] => some ⟨false, false, false, false, .skip⟩
  | [c] => some (ofChar c)
  | _ => none

end CharTraits

end LineMark.Token
