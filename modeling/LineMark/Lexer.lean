import LineMark.Machine.Run
import LineMark.Settings

/-!
Lexers. A lexer is bound to a source and to settings when it is made and scans its source once;
afterwards it only tells that it has been used.
-/

set_option autoImplicit false
set_option relaxedAutoImplicit false

namespace LineMark

structure Lexer where
  mode : Mode
  machine : Machine

inductive Outcome
  | tokens (tokens : List Token)
  | error (error : LexError)
  | used (phase : Phase)
  | misuse (cause : Misuse)
  deriving DecidableEq

/-- The answer of a lexer, the lexer afterwards, and what was logged meanwhile. -/
structure Call where
  outcome : Outcome
  lexer : Lexer
  log : List Log.Record

namespace Lexer

def new (source : Text) (file : Option Text) (settings : Settings) : Lexer where
  mode := settings.mode
  machine := .start source file

def phase (lexer : Lexer) : Phase :=
  lexer.machine.status.phase

/-- The answer of a lexer whose machine has just finished, with the records that were logged
meanwhile. -/
def report (mode : Mode) (machine : Machine) (log : List Log.Record) : Call :=
  match machine.status with
  | .failed error => ⟨.error error, ⟨mode, machine⟩, log⟩
  | _ => ⟨.tokens machine.tokens.toList, ⟨mode, machine⟩, log⟩

section

variable [Unicode.Database]

def tokenize (lexer : Lexer) : Call :=
  match lexer.phase with
  | .scanning =>
    match lexer.machine.scan lexer.mode with
    | .ok machine => report lexer.mode machine (machine.log.drop lexer.machine.log.length)
    | .error cause => ⟨.misuse cause, lexer, []⟩
  | phase => ⟨.used phase, lexer, []⟩

def lex (source : Text) (file : Option Text) (settings : Settings) : Call :=
  (new source file settings).tokenize

end

/-- The message about a lexer that has been used and is in the given phase. -/
def usedMessage (phase : Phase) : Text :=
  "Lexer already used (state: ".toList ++ phase.name.toList ++ ")".toList

end Lexer

end LineMark
