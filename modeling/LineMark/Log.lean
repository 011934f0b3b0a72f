import LineMark.Fault
import LineMark.Phase

/-!
Log records: where they come from, how grave they are and what they say. The names of all loggers
lie below one root.
-/

set_option autoImplicit false
set_option relaxedAutoImplicit false

namespace LineMark.Log

structure Record where
  logger : Text
  level : Text
  message : Text
  deriving DecidableEq

def root : Text := "berd".toList

/-- The full name of a logger: the root itself and the names below it stay, and any other name is
put below the root. -/
def loggerName (name : Text) : Text :=
  if name = root ∨ (root ++ ['.']).isPrefixOf name then name else root ++ '.' :: name

def scanRecord (message : Text) : Record where
  logger := loggerName "berd.lexer.core".toList
  level := "DEBUG".toList
  message := message

def lexed (count : Nat) (file : Option Text) (phase : Phase) : Record :=
  let name := match file with
    | none | some [] => "<string>".toList
    | some name => name
  scanRecord ("Lexed ".toList ++ Text.Numeral.decimal count ++ " tokens from ".toList ++ name ++
    " (".toList ++ phase.name.toList ++ ")".toList)

def failed (error : LexError) : Record :=
  scanRecord ("Lexing failed: ".toList ++ error.message)

end LineMark.Log
