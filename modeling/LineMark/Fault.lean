import LineMark.Location

/-!
Errors found in a source. An error is a fault at a place; its message names both, and its dump
names the fault alone.
-/

set_option autoImplicit false
set_option relaxedAutoImplicit false

namespace LineMark

inductive Fault
  | unspecified
  | unterminatedString
  | unterminatedLine
  | deadCode
  deriving DecidableEq, Repr

namespace Fault

def all : List Fault :=
  [unspecified, unterminatedString, unterminatedLine, deadCode]

def name : Fault → String
  | unspecified => "LexError"
  | unterminatedString => "UnterminatedString"
  | unterminatedLine => "UnterminatedLine"
  | deadCode => "DeadCode"

def description : Fault → String
  | unspecified => "lex error"
  | unterminatedString => "unterminated string"
  | unterminatedLine => "unterminated line"
  | deadCode => "dead code"

/-- Whether every error of the second fault is also one of the first: the unclassified fault
covers all, and the others cover themselves. -/
def covers (general special : Fault) : Bool :=
  general = unspecified || general = special

end Fault

structure LexError where
  fault : Fault
  location : Location
  deriving DecidableEq

namespace LexError

def message (error : LexError) : Text :=
  error.fault.description.toList ++ " at ".toList ++ error.location.toText

/-- The dump that stands in place of a dump of tokens. -/
def dump (error : LexError) : Text :=
  "<error(".toList ++ error.fault.name.toList ++ ")>\n".toList

end LexError

end LineMark
