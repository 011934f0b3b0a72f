import LineMark.Proofs.Lexer
import LineMark.Proofs.Machine.Visits

/-!
The gap between tokens makes no difference. Scans that skip other white space before a character, or
none at all, find the same tokens at the same places, end in the same machine and log the same. As
the scan is, it dispatches white space only where a single space is all that is left of the source.
-/

set_option autoImplicit false
set_option relaxedAutoImplicit false

namespace LineMark

open Token (CharClass)
open Unicode (isWhitespace)

namespace Cursor

variable {after tail : Text} {head : Char}

theorem skipWhitespace_nowhere (cursor : Cursor) :
    cursor.skipWhitespace { maxCount := some 0 } = .ok cursor := by
  have limit : min ((((some 0 : Option Int).map Int.toNat)).getD cursor.remainingLength.toNat)
      cursor.remainingLength.toNat = 0 := Nat.zero_min _
  change skipAtMost _ (min _ _) cursor = _
  rw [limit]
  rfl

theorem eq_space_of_tokenGap
    (left : after.drop (skipLength Machine.tokenGap after) = head :: tail)
    (blank : isWhitespace head = true) :
    after = [' '] ∧ head = ' ' ∧ skipLength Machine.tokenGap after = 0 := by
  by_cases single : after = [' ']
  · subst single
    have nothing : skipLength Machine.tokenGap [' '] = 0 := by decide
    rw [nothing] at left
    exact ⟨rfl, (List.cons.inj left).1.symm, nothing⟩
  · -- What is skipped is then the longest run of white space, and no white space follows it.
    have skips_blank : skips Machine.tokenGap = isWhitespace := by
      funext c
      simp [skips, Machine.tokenGap]
    have length : skipLength Machine.tokenGap after = (after.takeWhile isWhitespace).length := by
      rw [skipLength_of_isAmple (isAmple_none _) fun both => single both.2, skips_blank]
    obtain ⟨run, rest, rfl, cut⟩ := Text.exists_isRun isWhitespace after
    rw [length, cut.takeWhile_eq, List.drop_left] at left
    subst left
    rw [cut.stops head rfl] at blank
    cases blank

end Cursor

variable [Unicode.Database]

namespace Machine

variable {gap : SkipOptions} {mode : Mode} {source : Text} {file : Option Text}
  {machine there next : Machine} {before after : Text} {head : Char} {acts : List Act}
  {limit offset : Nat}

/-- One cycle without a skip: it dispatches the character under the cursor, white space or not, or
ends the scan where there is none. -/
def unskippedCycle (mode : Mode) (machine : Machine) : Except Misuse Machine := do
  match ← machine.cursor.peek with
  | none => machine.perform .terminate
  | some head => machine.dispatch mode head

def unskippedCycles (mode : Mode) : Nat → Machine → Except Misuse Machine
  | 0, machine => .ok machine
  | limit + 1, machine =>
    match machine.status with
    | .scanning => do unskippedCycles mode limit (← machine.unskippedCycle mode)
    | _ => .ok machine

theorem cycle_nowhere (mode : Mode) (machine : Machine) :
    machine.cycle { maxCount := some 0 } mode = machine.unskippedCycle mode := by
  have still : machine.perform (.skip { maxCount := some 0 }) = .ok machine := by
    simp only [perform, Cursor.skipWhitespace_nowhere]
    rfl
  rw [cycle, still]
  rfl

theorem cycles_nowhere (mode : Mode) (limit : Nat) (machine : Machine) :
    cycles { maxCount := some 0 } mode limit machine = unskippedCycles mode limit machine := by
  induction limit generalizing machine with
  | zero => rfl
  | succ limit ih =>
    have same : cycles { maxCount := some 0 } mode limit = unskippedCycles mode limit := funext ih
    cases status : machine.status <;>
      simp only [cycles, unskippedCycles, status, cycle_nowhere, same]

def scanBy (loop : Mode → Nat → Machine → Except Misuse Machine) (mode : Mode)
    (machine : Machine) : Except Misuse Machine := do
  let machine ← loop mode (machine.cursor.source.length + 1) machine
  machine.close

theorem Visits.eq_space (visits : Visits tokenGap mode source file offset head)
    (blank : isWhitespace head = true) : head = ' ' ∧ offset + 1 = source.length := by
  obtain ⟨limit, machine, there, acts, next, ran, dispatched, place⟩ := visits
  have inside := isIn_cycles (isIn_start source file) ran
  obtain ⟨before, after, rfl, splits⟩ := inside.exists_splits
  obtain ⟨tail, left, rfl, -⟩ := dispatched.exists_tail splits
  obtain ⟨rfl, rfl, nothing⟩ := Cursor.eq_space_of_tokenGap left blank
  refine ⟨rfl, ?_⟩
  rw [Cursor.moved_offset, splits.offset, nothing] at place
  rw [List.length_append, List.length_singleton]
  omega

end Machine

namespace Lexer

open Machine (start cycles scanBy unskippedCycles tokenGap Visits)

def tokenizeBy (loop : Mode → Nat → Machine → Except Misuse Machine) (lexer : Lexer) : Call :=
  match lexer.phase with
  | .scanning =>
    match lexer.machine.scanBy loop lexer.mode with
    | .ok machine => report lexer.mode machine (machine.log.drop lexer.machine.log.length)
    | .error cause => ⟨.misuse cause, lexer, []⟩
  | phase => ⟨.used phase, lexer, []⟩

/-- The loop comes to an end by itself on the source, and a lexer that goes through it answers, ends
and logs as the lexer of the source does. -/
structure ScansAlike (loop : Mode → Nat → Machine → Except Misuse Machine) (source : Text)
    (file : Option Text) (settings : Settings) : Prop where
  ends : ∃ last : Machine, last.status ≠ .scanning ∧
    ∀ limit > source.length, loop settings.mode limit (start source file) = .ok last
  call_eq : (new source file settings).tokenizeBy loop = lex source file settings

theorem scansAlike_cycles (gap : SkipOptions) (source : Text) (file : Option Text)
    (settings : Settings) : ScansAlike (cycles gap) source file settings where
  ends := by
    obtain ⟨heads, last, halts, within⟩ := Machine.exists_halts gap settings.mode source file
    exact ⟨last, halts.status_ne,
      fun limit enough => halts.cycles_eq (Nat.lt_of_le_of_lt within.length_le enough)⟩
  call_eq := by
    have same : scanBy (cycles gap) settings.mode (start source file) =
        (start source file).scan settings.mode := by
      change Machine.scanOver gap settings.mode _ = Machine.scanOver tokenGap settings.mode _
      rw [Machine.scanOver_start, Machine.scanOver_start]
    change (match scanBy (cycles gap) settings.mode (start source file) with
      | .ok machine => report settings.mode machine machine.log
      | .error cause => ⟨.misuse cause, new source file settings, []⟩ : Call) = _
    rw [same]
    rfl

/-- A lexer answers, ends and logs the same if it skips other white space before it dispatches a
character, up to the last character of the source or to wherever the options say, and also if it
does not skip at all. With the gap that it does skip, white space is dispatched only if it is a
space that ends the source. -/
theorem lex_over_any_gap (source : Text) (file : Option Text) (settings : Settings) :
    (∀ gap, ScansAlike (cycles gap) source file settings) ∧
    ScansAlike unskippedCycles source file settings ∧
    ∀ offset head, Visits tokenGap settings.mode source file offset head →
      (CharClass.ofChar head = .space → head = ' ' ∧ offset + 1 = source.length) ∧
        (isWhitespace head = true → CharClass.ofChar head = .space) := by
  refine ⟨?_, ?_, ?_⟩
  · intro gap
    exact scansAlike_cycles gap source file settings
  · have unskipped : cycles { maxCount := some 0 } = unskippedCycles := by
      funext mode limit machine
      exact Machine.cycles_nowhere mode limit machine
    rw [← unskipped]
    exact scansAlike_cycles _ source file settings
  · intro offset head visits
    constructor
    · intro space
      exact visits.eq_space (CharClass.isWhitespace_of_ofChar space)
    · intro blank
      obtain ⟨rfl, -⟩ := visits.eq_space blank
      rfl

end Lexer

end LineMark
