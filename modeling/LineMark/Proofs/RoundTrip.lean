import LineMark.Proofs.Lexer
import LineMark.Proofs.Reading.Prefix

/-!
The lexemes of accepted sources, in order. They are nothing, or any lexemes followed by one marker,
and every such list is read back from the source that spells it out with single spaces between.
-/

set_option autoImplicit false
set_option relaxedAutoImplicit false

namespace LineMark

namespace Lexeme

/-- The source that spells the lexemes out with single spaces between. -/
def written (lexemes : List Lexeme) : Text :=
  [' '].intercalate (lexemes.map spelling)

private theorem written_singleton (lexeme : Lexeme) : written [lexeme] = lexeme.spelling := by
  rw [written, List.map_singleton, List.intercalate_singleton]

private theorem written_cons {first : Lexeme} {rest : List Lexeme} (more : rest ≠ []) :
    written (first :: rest) = first.spelling ++ ' ' :: written rest := by
  obtain ⟨second, rest, rfl⟩ := List.exists_cons_of_ne_nil more
  simp only [written, List.map_cons, List.intercalate_cons_cons, List.append_assoc,
    List.singleton_append]

end Lexeme

variable [Unicode.Database]

/-- The lists of lexemes that accepted sources have. -/
def Lexeme.WellFormed (lexemes : List Lexeme) : Prop :=
  lexemes = [] ∨ ∃ earlier marker, lexemes = earlier ++ [marker] ∧
    (∀ lexeme ∈ earlier, lexeme.IsOrdinary) ∧ marker.IsMarker

namespace Reading

open Lexeme (IsOrdinary IsMarker WellFormed written)

variable {mode : Mode} {source : Text} {file : Option Text}

theorem wellFormed_of_tokens {found : List Token}
    (accepted : (ofSource mode source).outcome source file = .tokens found) :
    WellFormed (found.map Token.lexeme) := by
  obtain ⟨rfl, ended | none_found⟩ := of_outcome_tokens accepted
  · obtain ⟨earlier, marker, split, ordinary, last⟩ := exists_marker_of_status ended
    refine Or.inr ⟨earlier.map Token.lexeme, marker.lexeme, ?_, ?_, last⟩
    · rw [ofSource, split, List.map_append, List.map_singleton]
    · simpa using ordinary
  · exact Or.inl (List.map_eq_nil_iff.mpr none_found)

private theorem ofText_spelling {lexeme : Lexeme} (ordinary : IsOrdinary lexeme) (mode : Mode)
    (offset : Nat) :
    (ofText mode offset lexeme.spelling).Unended ∧
      ∀ source file, (tokens source file (ofText mode offset lexeme.spelling)).map Token.lexeme =
        [lexeme] := by
  obtain ⟨head, tail, place, spelled, stands⟩ := ordinary.stands mode
  rw [spelled, ofText_of_width stands rfl, List.drop_length, ofText_nil]
  refine ⟨by simp [Unended, Piece.width?], fun source file => ?_⟩
  rfl

theorem ofText_written {earlier : List Lexeme} {last : Lexeme}
    (ordinary : ∀ lexeme ∈ earlier, IsOrdinary lexeme) (marker : IsMarker last) (mode : Mode)
    (offset : Nat) :
    ∃ (pieces : Reading) (stop place : Nat),
      ofText mode offset (written (earlier ++ [last])) =
        pieces ++ [(stop, .marker last.1 last.2 place)] ∧
      ∀ source file, (tokens source file pieces).map Token.lexeme = earlier := by
  induction earlier generalizing offset with
  | nil =>
    obtain ⟨head, tail, place, spelled, stands⟩ := marker.stands mode
    refine ⟨[], offset, place, ?_, fun source file => rfl⟩
    rw [List.nil_append, Lexeme.written_singleton, spelled, ofText_of_end stands rfl,
      List.nil_append]
  | cons first earlier ih =>
    obtain ⟨unended, single⟩ := ofText_spelling (ordinary first (by simp)) mode offset
    obtain ⟨spelled, apart, -, same⟩ :=
      ofText_append_space unended (written (earlier ++ [last]))
    obtain ⟨pieces, stop, place, split, rest⟩ :=
      ih (fun lexeme member => ordinary lexeme (List.mem_cons_of_mem first member))
        (offset + first.spelling.length + 1)
    refine ⟨spelled ++ pieces, stop, place, ?_, ?_⟩
    · rw [List.cons_append, Lexeme.written_cons (by simp), apart, split, List.append_assoc]
    · intro source file
      rw [tokens_append, List.map_append, same, single, rest, List.singleton_append]

end Reading

namespace Lexer

open Lexeme (WellFormed written)

/-- The lists of lexemes of accepted sources are exactly the well-formed ones, and each is read back
from its own written form, whatever the settings. -/
theorem lexemes_exact :
    (∀ source file settings tokens, (lex source file settings).outcome = .tokens tokens →
      WellFormed (tokens.map Token.lexeme)) ∧
    ∀ lexemes, WellFormed lexemes → ∀ file settings, ∃ tokens,
      (lex (written lexemes) file settings).outcome = .tokens tokens ∧
        tokens.map Token.lexeme = lexemes := by
  constructor
  · intro source file settings tokens accepted
    rw [outcome_lex] at accepted
    exact Reading.wellFormed_of_tokens accepted
  · rintro lexemes (rfl | ⟨earlier, marker, rfl, ordinary, last⟩) file settings
    · refine ⟨[], ?_, rfl⟩
      rw [outcome_lex, Reading.ofSource, show written [] = [] from rfl, Reading.ofText_nil]
      rfl
    · obtain ⟨pieces, stop, place, split, found⟩ :=
        Reading.ofText_written ordinary last settings.mode 0
      change Reading.ofSource settings.mode (written (earlier ++ [marker])) = _ at split
      rw [outcome_lex, split, Reading.outcome_append_marker]
      refine ⟨_, rfl, ?_⟩
      rw [List.map_append, found]
      rfl

end Lexer

end LineMark
