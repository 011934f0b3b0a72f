import LineMark.Lexer
import LineMark.Unicode.Tables

/-!
Sessions: lexers under names, the active settings, and the settings to go back to. Entering
settings saves the active ones, and leaving restores what was saved last.
-/

set_option autoImplicit false
set_option relaxedAutoImplicit false

namespace LineMark

/-- The state of a session. -/
structure Session where
  lexers : List (Text × Lexer)
  active : Settings
  saved : List Settings

namespace Session

def empty : Session where
  lexers := []
  active := .default
  saved := []

inductive Step
  | make (name source : Text) (file : Option Text) (settings : Option Settings)
  | phase (name : Text)
  | tokenize (name : Text)
  | lex (source : Text) (file : Option Text) (settings : Option Settings)
  | lexWithin (source : Text) (settings : Settings)
  | activate (settings : Settings)
  | reset
  | enter (settings : Settings)
  | leave
  | inspect

inductive Answer
  | phase (phase : Phase)
  | tokenized (outcome : Outcome) (phase : Phase)
  | lexed (outcome : Outcome)
  | settings (settings : Settings)
  | misuse (cause : Misuse)

def lexer? (session : Session) (name : Text) : Option Lexer :=
  session.lexers.lookup name

def putLexer (session : Session) (name : Text) (lexer : Lexer) : Session :=
  { session with lexers := (name, lexer) :: session.lexers.filter (·.1 ≠ name) }

def activate (session : Session) (settings : Settings) : Session :=
  { session with active := settings }

def enter (session : Session) (settings : Settings) : Session :=
  { session with active := settings, saved := session.active :: session.saved }

/-- The session after leaving the settings entered last, if any were entered. -/
def leave? (session : Session) : Option Session :=
  match session.saved with
  | [] => none
  | settings :: saved => some { session with active := settings, saved := saved }

variable [Unicode.Database]

def lex (session : Session) (source : Text) (file : Option Text) (settings : Option Settings) :
    Outcome :=
  (Lexer.lex source file (settings.getD session.active)).outcome

def step (session : Session) : Step → Session × Answer
  | .make name source file settings =>
    let lexer := Lexer.new source file (settings.getD session.active)
    (session.putLexer name lexer, .phase lexer.phase)
  | .phase name =>
    match session.lexer? name with
    | some lexer => (session, .phase lexer.phase)
    | none => (session, .misuse (.unknownLexer name))
  | .tokenize name =>
    match session.lexer? name with
    | some lexer =>
      let call := lexer.tokenize
      (session.putLexer name call.lexer, .tokenized call.outcome call.lexer.phase)
    | none => (session, .misuse (.unknownLexer name))
  | .lex source file settings => (session, .lexed (session.lex source file settings))
  | .lexWithin source settings =>
    let entered := session.enter settings
    (entered.leave?.getD entered, .lexed (entered.lex source none none))
  | .activate settings => (session.activate settings, .settings settings)
  | .reset => (session.activate .default, .settings .default)
  | .enter settings => (session.enter settings, .settings settings)
  | .leave =>
    match session.leave? with
    | some left => (left, .settings left.active)
    | none => (session, .misuse .nothingEntered)
  | .inspect => (session, .settings session.active)

def run (session : Session) : List Step → Session × List Answer
  | [] => (session, [])
  | request :: requests =>
    let (next, answer) := session.step request
    let (last, answers) := run next requests
    (last, answer :: answers)

end Session

end LineMark
