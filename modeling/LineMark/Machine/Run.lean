import LineMark.Machine.Scanner

/-!
The run of a machine. Each cycle passes over a gap, meets a character and runs the scanner for it;
the run ends with the source, with a marker or with an error. Tokens must end with a marker.
-/

set_option autoImplicit false
set_option relaxedAutoImplicit false

namespace LineMark.Machine

/-- The gap between tokens: white space, except for a plain space that ends the source. -/
def tokenGap : SkipOptions :=
  { preserveSingle := true }

section

variable [Unicode.Database]

/-- The scanner for the character under the cursor, and an advance by one unless the scan is over
with it. -/
def dispatch (mode : Mode) (head : Char) (machine : Machine) : Except Misuse Machine := do
  let machine ← (scanner mode head).run machine
  match machine.status with
  | .scanning => machine.perform (.advance 1)
  | _ => return machine

def cycle (gap : SkipOptions) (mode : Mode) (machine : Machine) : Except Misuse Machine := do
  let machine ← machine.perform (.skip gap)
  match ← machine.cursor.peek with
  | none => machine.perform .terminate
  | some head => machine.dispatch mode head

def cycles (gap : SkipOptions) (mode : Mode) : Nat → Machine → Except Misuse Machine
  | 0, machine => .ok machine
  | limit + 1, machine =>
    match machine.status with
    | .scanning => do cycles gap mode limit (← machine.cycle gap mode)
    | _ => .ok machine

end

def isLineOpen (machine : Machine) : Bool :=
  machine.tokens.back?.any (!·.kind.isEndOfLine)

def recorded (machine : Machine) : Machine :=
  { machine with
    log := machine.log ++
      [Log.lexed machine.tokens.size machine.cursor.file machine.status.phase] }

/-- The machine after the check that a scan without error has not left a line open. Success is
recorded. -/
def close (machine : Machine) : Except Misuse Machine :=
  match machine.status with
  | .failed _ => .ok machine
  | _ =>
    if machine.isLineOpen then machine.perform (.fail .unterminatedLine)
    else .ok machine.recorded

variable [Unicode.Database]

/-- The whole scan, over a gap of choice. Every cycle but the last takes a character, so that one
cycle more than there are characters is enough. -/
def scanOver (gap : SkipOptions) (mode : Mode) (machine : Machine) : Except Misuse Machine := do
  let machine ← cycles gap mode (machine.cursor.source.length + 1) machine
  machine.close

def scan (mode : Mode) (machine : Machine) : Except Misuse Machine :=
  scanOver tokenGap mode machine

end LineMark.Machine
