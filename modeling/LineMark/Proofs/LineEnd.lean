import LineMark.Proofs.Lexer
import LineMark.Proofs.Machine.Loop
import LineMark.Proofs.Reading.Ending

/-!
The ends of lines. Only a source without anything to read has no tokens; every other source that is
accepted has one marker, at the end of its tokens. A scan that goes on has found no marker, and a
scan that finds one is over.
-/

set_option autoImplicit false
set_option relaxedAutoImplicit false

namespace LineMark

open Piece (Stands)
open Token (CharClass)

def Machine.IsLineUnmarked (machine : Machine) : Prop :=
  ∀ token ∈ machine.tokens.toList, token.kind.isEndOfLine = false

theorem Machine.close_of_marker {machine : Machine} {tokens : Array Token} {marker : Token}
    (found : machine.tokens = tokens.push marker) (ends : marker.kind.isEndOfLine = true)
    (ended : machine.status = .terminated) : machine.close = .ok machine.recorded := by
  unfold close
  have line : machine.isLineOpen = false := by simp [isLineOpen, found, ends]
  rw [ended, line]
  rfl

variable [Unicode.Database]

theorem Piece.Stands.eq_gap_iff {mode : Mode} {head : Char} {tail : Text} {piece : Piece}
    (stands : Stands mode head tail piece) :
    piece = .gap ↔ CharClass.ofChar head ∈ [.space, .skip] := by
  rw [List.mem_pair]
  constructor
  · rintro rfl
    cases stands with
    | blank blank => exact CharClass.ofChar_of_isWhitespace blank
    | skipped skipped => exact Or.inr skipped
  · rintro (space | skipped)
    · have blank : Stands mode head tail .gap := .blank (CharClass.isWhitespace_of_ofChar space)
      exact stands.ofText_eq.symm.trans blank.ofText_eq
    · have gap : Stands mode head tail .gap := .skipped skipped
      exact stands.ofText_eq.symm.trans gap.ofText_eq

namespace Reading

variable {mode : Mode} {source : Text} {file : Option Text}

theorem blank_iff {offset : Nat} {text : Text} :
    tokens source file (ofText mode offset text) = [] ∧ (ofText mode offset text).Unended ↔
      ∀ c ∈ text, CharClass.ofChar c ∈ [.space, .skip] := by
  induction offset, text using induction mode with
  | nil offset => simp [tokens, Unended]
  | step offset head tail piece width stands goes ih =>
    rw [ofText_of_width stands goes, List.forall_mem_cons, ← stands.eq_gap_iff]
    cases piece with
    | gap =>
      obtain rfl : 0 = width := Option.some.inj goes
      rw [← List.drop_zero (l := tail), ← ih]
      simp [tokens_cons, token?, Unended, Piece.width?]
    | lexeme => simp [tokens_cons, token?]
    | marker | fault => cases goes
  | stop offset head tail piece stands ends =>
    rw [ofText_of_end stands ends, List.forall_mem_cons, ← stands.eq_gap_iff]
    cases piece with
    | gap | lexeme => cases ends
    | marker | fault => simp [Unended, Piece.width?]

theorem outcome_eq_nil_iff :
    (ofSource mode source).outcome source file = .tokens [] ↔
      ∀ c ∈ source, CharClass.ofChar c ∈ [.space, .skip] := by
  constructor
  · intro answered
    obtain ⟨none_found, -⟩ := of_outcome_tokens answered
    exact blank_iff.mp ⟨none_found.symm, unended_of_tokens_nil answered⟩
  · intro blank
    have read : tokens source file (ofSource mode source) = [] ∧ (ofSource mode source).Unended :=
      blank_iff.mpr blank
    rw [outcome_of_unended read.2, if_pos read.1]

theorem exists_marker_of_outcome {found : List Token} (some_found : found ≠ [])
    (accepted : (ofSource mode source).outcome source file = .tokens found) :
    ∃ earlier marker, found = earlier ++ [marker] ∧ marker.kind.isEndOfLine = true ∧
      ∀ token ∈ earlier, token.kind.isEndOfLine = false := by
  obtain ⟨rfl, ended | none_found⟩ := of_outcome_tokens accepted
  · obtain ⟨earlier, marker, split, ordinary, last⟩ := exists_marker_of_status ended
    exact ⟨earlier, marker, split, last.isEndOfLine,
      fun token member => (ordinary token member).isEndOfLine⟩
  · exact (some_found none_found).elim

end Reading

namespace Machine

variable {gap : SkipOptions} {mode : Mode} {source : Text} {file : Option Text}
  {machine there next : Machine} {head : Char} {acts : List Act} {limit : Nat}

private theorem isLineUnmarked_take {tail : Text} {piece : Piece}
    (stands : Stands mode head tail piece) (unmarked : there.IsLineUnmarked)
    (goes_on : (there.take piece).status = .scanning) : (there.take piece).IsLineUnmarked := by
  cases piece with
  | gap => exact unmarked
  | lexeme kind text place width =>
    intro token member
    rw [take, Array.toList_push, List.mem_append, List.mem_singleton] at member
    rcases member with earlier | rfl
    · exact unmarked token earlier
    · exact stands.isOrdinary.isEndOfLine
  | marker | fault => cases goes_on

theorem isLineUnmarked_of_scanning
    (ran : cycles gap mode limit (start source file) = .ok machine)
    (scanning : machine.status = .scanning) : machine.IsLineUnmarked := by
  have step : ∀ machine next : Machine,
      machine.cursor.IsIn source ∧ (machine.status = .scanning → machine.IsLineUnmarked) →
      machine.status = .scanning → machine.cycle gap mode = .ok next →
      next.cursor.IsIn source ∧ (next.status = .scanning → next.IsLineUnmarked) := by
    rintro machine next ⟨inside, unmarked⟩ scanning first
    refine ⟨isIn_cycle inside scanning first, fun goes_on => ?_⟩
    obtain ⟨before, after, -, splits⟩ := inside.exists_splits
    rcases cycle_cases splits scanning first with
      ⟨there, exhausts⟩ | ⟨there, head, acts, dispatches⟩
    · rw [exhausts.status_eq] at goes_on
      cases goes_on
    · obtain ⟨blanks, tail, piece, -, -, rfl, stands, rfl⟩ := dispatches.exists_piece splits
      exact isLineUnmarked_take stands (unmarked scanning) goes_on
  exact (cycles_preserves step ⟨isIn_start source file, fun _ => by simp [IsLineUnmarked, start]⟩
    ran).2 scanning

theorem Dispatches.exists_marker (dispatches : Dispatches gap mode machine there head acts next)
    (inside : machine.cursor.IsIn source) (ended : next.status = .terminated) :
    ∃ marker, marker.kind.isEndOfLine = true ∧ next.tokens = machine.tokens.push marker := by
  obtain ⟨before, after, -, splits⟩ := inside.exists_splits
  obtain ⟨blanks, tail, piece, -, -, rfl, stands, rfl⟩ := dispatches.exists_piece splits
  cases piece with
  | gap | lexeme | fault => cases ended
  | marker kind text place => exact ⟨_, stands.isMarker.isEndOfLine, rfl⟩

end Machine

namespace Lexer

open Machine (start cycles scan tokenGap Dispatches IsLineUnmarked)

/-- A lexer answers with no tokens where every character is passed over; else it answers with an
error, or with tokens of which the last and no other ends a line. While it scans it has found no
marker, and when it finds one that is the end of the scan. -/
theorem lex_line_end (source : Text) (file : Option Text) (settings : Settings) :
    ((lex source file settings).outcome = .tokens [] ↔
      ∀ c ∈ source, CharClass.ofChar c ∈ [.space, .skip]) ∧
    ((¬∀ c ∈ source, CharClass.ofChar c ∈ [.space, .skip]) →
      (∃ error, (lex source file settings).outcome = .error error) ∨
        ∃ earlier marker, (lex source file settings).outcome = .tokens (earlier ++ [marker]) ∧
          marker.kind.isEndOfLine = true ∧ ∀ token ∈ earlier, token.kind.isEndOfLine = false) ∧
    ∀ limit machine, cycles tokenGap settings.mode limit (start source file) = .ok machine →
      machine.status = .scanning →
        machine.IsLineUnmarked ∧
          ∀ there head acts next, Dispatches tokenGap settings.mode machine there head acts next →
            next.status = .terminated →
              ∃ marker, marker.kind.isEndOfLine = true ∧
                next.tokens = machine.tokens.push marker ∧
                (start source file).scan settings.mode = .ok next.recorded ∧
                (lex source file settings).outcome = .tokens next.tokens.toList := by
  refine ⟨?_, ?_, ?_⟩
  · rw [outcome_lex]
    exact Reading.outcome_eq_nil_iff
  · intro visible
    rw [outcome_lex]
    rcases Reading.outcome_cases settings.mode source file with
      ⟨found, answered⟩ | ⟨fault, -, place, answered⟩
    · have some_found : found ≠ [] := by
        rintro rfl
        exact visible (Reading.outcome_eq_nil_iff.mp answered)
      obtain ⟨earlier, marker, rfl, ends, ordinary⟩ :=
        Reading.exists_marker_of_outcome some_found answered
      exact Or.inr ⟨earlier, marker, answered, ends, ordinary⟩
    · exact Or.inl ⟨_, answered⟩
  · intro limit machine ran scanning
    refine ⟨Machine.isLineUnmarked_of_scanning ran scanning, ?_⟩
    intro there head acts next dispatches ended
    have inside := Machine.isIn_cycles (Machine.isIn_start source file) ran
    obtain ⟨marker, ends, found⟩ := dispatches.exists_marker inside ended
    have stopped : next.status ≠ .scanning := by simp [ended]
    have ran_on : cycles tokenGap settings.mode (limit + 1) (start source file) = .ok next :=
      (Machine.cycles_add ran 1).trans (Machine.cycles_succ scanning dispatches.cycle_eq 0)
    have scanned : (start source file).scan settings.mode = .ok next.recorded :=
      (Machine.scan_eq_close ran_on stopped).trans (Machine.close_of_marker found ends ended)
    refine ⟨marker, ends, found, scanned, ?_⟩
    have recorded : next.recorded.status = .terminated := ended
    rw [tokenize_new source file settings scanned, report, recorded]
    rfl

end Lexer

end LineMark
