import LineMark.Cursor
import LineMark.Log
import LineMark.Token.Basic

/-!
The scanning machine: a cursor, the tokens found so far, a status and a log. It is moved by acts,
one at a time, and stands still once it is no longer scanning. A failure is logged as it happens.
-/

set_option autoImplicit false
set_option relaxedAutoImplicit false

namespace LineMark

inductive Status
  | scanning
  | terminated
  | failed (error : LexError)
  deriving DecidableEq

namespace Status

def phase : Status → Phase
  | scanning => .scanning
  | terminated => .terminated
  | failed _ => .failed

end Status

/-- One thing that a scan does: a move of the cursor, a token at the place of the cursor, or an end
of the scan. -/
inductive Act
  | advance (count : Nat)
  | retreat (count : Nat)
  | read (count : Nat)
  | skip (options : SkipOptions)
  | emit (kind : Token.Kind) (text : Text)
  | terminate
  | fail (fault : Fault)

structure Machine where
  cursor : Cursor
  tokens : Array Token
  status : Status
  log : List Log.Record

namespace Machine

def start (source : Text) (file : Option Text) : Machine where
  cursor := .ofSource source file
  tokens := #[]
  status := .scanning
  log := []

def failWith (machine : Machine) (fault : Fault) : Machine :=
  let error : LexError := ⟨fault, machine.cursor.location⟩
  { machine with status := .failed error, log := machine.log ++ [Log.failed error] }

def perform (machine : Machine) : Act → Except Misuse Machine
  | .advance count => .ok { machine with cursor := machine.cursor.advance count }
  | .retreat count => .ok { machine with cursor := machine.cursor.retreat count }
  | .read count => .ok { machine with cursor := (machine.cursor.read count).2 }
  | .skip options => do return { machine with cursor := ← machine.cursor.skipWhitespace options }
  | .emit kind text =>
    .ok { machine with tokens := machine.tokens.push ⟨kind, text, machine.cursor.location⟩ }
  | .terminate => .ok { machine with status := .terminated }
  | .fail fault => .ok (machine.failWith fault)

/-- The machine after a list of acts, or after those of them that come before it stops scanning. -/
def performAll : List Act → Machine → Except Misuse Machine
  | [], machine => .ok machine
  | act :: acts, machine =>
    match machine.status with
    | .scanning => do performAll acts (← machine.perform act)
    | _ => .ok machine

end Machine

end LineMark
