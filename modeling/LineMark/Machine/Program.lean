import LineMark.Machine.Basic

/-!
Programs for the machine. A program looks at the cursor and acts on the machine, and what it does
next may depend on what it has seen. Running a program ends with the act that ends the scan; the
acts that it has done until then are its trace.
-/

set_option autoImplicit false
set_option relaxedAutoImplicit false

namespace LineMark

inductive Program (α : Type)
  | done (value : α)
  | look (next : Cursor → Program α)
  | act (step : Act) (next : Program α)
  | abort (cause : Misuse)

namespace Program

variable {α β : Type}

def bind : Program α → (α → Program β) → Program β
  | .done value, rest => rest value
  | .look next, rest => .look fun cursor => bind (next cursor) rest
  | .act step next, rest => .act step (bind next rest)
  | .abort cause, _ => .abort cause

instance : Monad Program where
  pure := done
  bind := bind

/-- The machine after a program, or after that part of it that comes before the scan is over. -/
def run : Program Unit → Machine → Except Misuse Machine
  | .done _, machine => .ok machine
  | .look next, machine => run (next machine.cursor) machine
  | .act step next, machine => do
    let machine ← machine.perform step
    match machine.status with
    | .scanning => run next machine
    | _ => return machine
  | .abort cause, _ => .error cause

/-- The acts that a program does on a machine. -/
def trace : Program Unit → Machine → Except Misuse (List Act)
  | .done _, _ => .ok []
  | .look next, machine => trace (next machine.cursor) machine
  | .act step next, machine => do
    let machine ← machine.perform step
    match machine.status with
    | .scanning => (step :: ·) <$> trace next machine
    | _ => return [step]
  | .abort cause, _ => .error cause

def ofExcept : Except Misuse α → Program α
  | .ok value => .done value
  | .error cause => .abort cause

def offset : Program Int :=
  .look fun cursor => .done cursor.offset

def remainingLength : Program Int :=
  .look fun cursor => .done cursor.remainingLength

def hasRemaining : Program Bool :=
  .look fun cursor => .done cursor.hasRemaining

def peek : Program (Option Char) :=
  .look fun cursor => ofExcept cursor.peek

def peekAt (distance : Int) : Program (Option Char) :=
  .look fun cursor => .done (cursor.peekAt distance)

def find? (c : Char) (start : Int) : Program (Option Int) :=
  .look fun cursor => .done (cursor.source.find? c start)

def slice (start stop : Int) : Program Text :=
  .look fun cursor => .done (cursor.source.slice start stop)

def advance (count : Nat) : Program Unit :=
  .act (.advance count) (.done ())

def retreat (count : Nat) : Program Unit :=
  .act (.retreat count) (.done ())

def read (count : Nat) : Program Text :=
  .look fun cursor => .act (.read count) (.done (cursor.read count).1)

def skip (options : SkipOptions) : Program Unit :=
  .act (.skip options) (.done ())

def emit (kind : Token.Kind) (text : Text) : Program Unit :=
  .act (.emit kind text) (.done ())

def terminate : Program Unit :=
  .act .terminate (.done ())

def fail (fault : Fault) : Program Unit :=
  .act (.fail fault) (.done ())

end Program

end LineMark
