import LineMark.Proofs.Lexer
import LineMark.Proofs.Reading.Ending
import LineMark.Unicode.Tables

/-!
Two sources with a space between. Where the reading of the first goes on to its end, the space sets
the second off, whatever the first ends with: what is found in the whole is what is found in the
first and then what is found in the second, its places moved behind the first.
-/

set_option autoImplicit false
set_option relaxedAutoImplicit false

namespace LineMark

def Token.behind (text : Text) (token : Token) : Token :=
  { token with location := token.location.behind text }

def LexError.behind (text : Text) (error : LexError) : LexError :=
  { error with location := error.location.behind text }

def Status.behind (text : Text) : Status → Status
  | .failed error => .failed (error.behind text)
  | status => status

namespace Reading

variable {file : Option Text}

def shift (distance : Nat) (reading : Reading) : Reading :=
  reading.map fun entry => (distance + entry.1, entry.2)

private theorem ofOffset_shift (before source : Text) (offset place : Nat) :
    Location.ofOffset (before ++ source) (before.length + offset + place : Nat) file =
      (Location.ofOffset source (offset + place : Nat) file).behind before := by
  rw [Nat.add_assoc, Location.ofOffset_add]

theorem tokens_shift (before source : Text) (reading : Reading) :
    tokens (before ++ source) file (shift before.length reading) =
      (tokens source file reading).map (·.behind before) := by
  rw [tokens, shift, List.filterMap_map, tokens, List.map_filterMap]
  apply List.filterMap_congr
  rintro ⟨offset, piece⟩ -
  cases piece with
  | gap | fault => rfl
  | lexeme | marker =>
    simp only [Function.comp_apply, token?, ofOffset_shift, Option.map_some, Token.behind]

theorem status_shift (before source : Text) (reading : Reading) :
    status (before ++ source) file (shift before.length reading) =
      (status source file reading).behind before := by
  simp only [status, shift, List.getLast?_map]
  cases reading.getLast? with
  | none => rfl
  | some entry =>
    obtain ⟨offset, piece⟩ := entry
    cases piece with
    | gap | lexeme | marker => rfl
    | fault fault place =>
      simp only [Option.map_some, ofOffset_shift, Status.behind, LexError.behind]

theorem status_append {source : Text} {pieces : Reading} (goes_on : pieces.Unended)
    (reading : Reading) :
    status source file (pieces ++ reading) = status source file reading := by
  induction pieces with
  | nil => rfl
  | cons entry pieces ih =>
    obtain ⟨width, goes⟩ := Option.ne_none_iff_exists'.mp (goes_on entry (by simp))
    rw [List.cons_append, status_cons_of_width goes]
    exact ih fun later member => goes_on later (List.mem_cons_of_mem entry member)

theorem ofOffset_append_space (before after : Text) (offset : Nat) :
    (Location.ofOffset after offset file).behind (before ++ [' ']) =
      .ofOffset (before ++ ' ' :: after) (before.length + 1 + offset : Nat) file := by
  have place := Location.ofOffset_add (before ++ [' ']) after offset file
  rw [List.append_assoc, List.singleton_append, List.length_append] at place
  exact place.symm

end Reading

section

variable [Unicode.Database]

namespace Reading

variable {mode : Mode} {file : Option Text}

theorem ofText_add (distance offset : Nat) (text : Text) :
    ofText mode (distance + offset) text = shift distance (ofText mode offset text) := by
  induction offset, text using induction mode with
  | nil offset => simp [shift]
  | step offset head tail piece width stands goes ih =>
    rw [ofText_of_width stands goes, ofText_of_width stands goes, Nat.add_assoc, Nat.add_assoc,
      ← Nat.add_assoc offset, ih]
    rfl
  | stop offset head tail piece stands ends =>
    rw [ofText_of_end stands ends, ofText_of_end stands ends]
    rfl

theorem ofSource_append_space {before : Text} (unended : (ofSource mode before).Unended)
    (after : Text) (file : Option Text) :
    tokens (before ++ ' ' :: after) file (ofSource mode (before ++ ' ' :: after)) =
        tokens before file (ofSource mode before) ++
          (tokens after file (ofSource mode after)).map (·.behind (before ++ [' '])) ∧
      status (before ++ ' ' :: after) file (ofSource mode (before ++ ' ' :: after)) =
        (status after file (ofSource mode after)).behind (before ++ [' ']) := by
  obtain ⟨pieces, split, goes_on, same⟩ := ofText_append_space unended after
  have place : 0 + before.length + 1 = (before ++ [' ']).length + 0 := by simp
  have whole : before ++ ' ' :: after = (before ++ [' ']) ++ after := by simp
  -- Behind the space the second text is read as by itself, only further on.
  rw [place, ofText_add] at split
  change ofSource mode (before ++ ' ' :: after) = pieces ++ shift _ (ofSource mode after) at split
  rw [split, tokens_append, status_append goes_on, same, whole, tokens_shift, status_shift]
  rw [List.append_assoc]
  exact ⟨congrArg (· ++ _) (tokens_ofSource_append mode before _ file), rfl⟩

theorem outcome_append_space {before : Text} (unended : (ofSource mode before).Unended)
    (after : Text) (file : Option Text) :
    (ofSource mode (before ++ ' ' :: after)).outcome (before ++ ' ' :: after) file =
      match status after file (ofSource mode after) with
      | .failed error => .error (error.behind (before ++ [' ']))
      | .terminated => .tokens (tokens before file (ofSource mode before) ++
          (tokens after file (ofSource mode after)).map (·.behind (before ++ [' '])))
      | .scanning =>
        if tokens before file (ofSource mode before) = [] ∧
            tokens after file (ofSource mode after) = [] then .tokens []
        else .error ⟨.unterminatedLine,
          (Location.ofOffset after after.length file).behind (before ++ [' '])⟩ := by
  obtain ⟨listed, stands⟩ := ofSource_append_space unended after file
  rw [outcome_eq, stands, listed]
  cases status after file (ofSource mode after) with
  | failed error => rfl
  | terminated => rfl
  | scanning =>
    have length : (before ++ ' ' :: after).length = before.length + 1 + after.length := by
      rw [List.length_append, List.length_cons]
      omega
    simp only [Status.behind, List.append_eq_nil_iff, List.map_eq_nil_iff, length,
      ofOffset_append_space]

end Reading

namespace Lexer

variable {before : Text} {file : Option Text} {settings : Settings}

/-- A source that a scan reads to its end without a fault, a space, and any other source: the answer
is that of the other source behind the tokens of the first, except that an open line remains where
the first has tokens and the other has none. -/
theorem lex_append_space
    (exhausted : (lex before file settings).outcome = .tokens [] ∨
      ∃ place, (lex before file settings).outcome = .error ⟨.unterminatedLine, place⟩)
    (after : Text) :
    (∀ tokens, tokens ≠ [] → (lex after file settings).outcome = .tokens tokens →
      (lex (before ++ ' ' :: after) file settings).outcome =
        .tokens ((lex before file settings).found ++
          tokens.map (·.behind (before ++ [' '])))) ∧
    (∀ error, (lex after file settings).outcome = .error error →
      (lex (before ++ ' ' :: after) file settings).outcome =
        .error (error.behind (before ++ [' ']))) ∧
    ((lex after file settings).outcome = .tokens [] →
      (lex (before ++ ' ' :: after) file settings).outcome =
        if (lex before file settings).found = [] then .tokens []
        else .error ⟨.unterminatedLine, .ofOffset (before ++ ' ' :: after)
          (before.length + 1 + after.length : Nat) file⟩) ∧
    ∀ offset : Nat, (Location.ofOffset after offset file).behind (before ++ [' ']) =
      .ofOffset (before ++ ' ' :: after) (before.length + 1 + offset : Nat) file := by
  rw [outcome_lex] at exhausted
  have whole := Reading.outcome_append_space (Reading.unended_ofSource_iff.mpr exhausted) after file
  rw [outcome_lex, outcome_lex, found_lex, whole]
  refine ⟨?_, ?_, ?_, Reading.ofOffset_append_space before after⟩
  · intro tokens some_found answered
    obtain ⟨rfl, ended | none_found⟩ := Reading.of_outcome_tokens answered
    · rw [ended]
    · exact (some_found none_found).elim
  · intro error answered
    rw [Reading.outcome_eq] at answered
    cases stood : Reading.status after file (Reading.ofSource settings.mode after) with
    | failed found =>
      rw [stood] at answered
      obtain rfl := Outcome.error.inj answered
      rfl
    | terminated =>
      rw [stood] at answered
      cases answered
    | scanning =>
      simp only [stood] at answered
      split at answered
      case isTrue => cases answered
      case isFalse some_found =>
        obtain rfl := Outcome.error.inj answered
        exact if_neg fun none_found => some_found none_found.2
  · intro answered
    have stood : Reading.status after file (Reading.ofSource settings.mode after) = .scanning :=
      Reading.unended_ofText_iff.mp (Reading.unended_of_tokens_nil answered)
    obtain ⟨none_found, -⟩ := Reading.of_outcome_tokens answered
    simp only [stood, ← none_found, and_true, Reading.ofOffset_append_space]

end Lexer

end

theorem Lexer.lex_append_space_swallowed :
    (∃ place, (lex "x\n12".toList none .default).outcome = .error ⟨.unterminatedLine, place⟩) ∧
      (lex "x\n12 \"s\" !".toList none .default).outcome =
        .tokens [⟨.identifier, "x".toList, ⟨1, 2, none⟩⟩, ⟨.intLiteral, "12".toList, ⟨2, 3, none⟩⟩,
          ⟨.stringLiteral, "s".toList, ⟨2, 6, none⟩⟩, ⟨.endOfLine, "!".toList, ⟨2, 9, none⟩⟩] :=
  have exhausted : (lex "x\n12".toList none .default).outcome =
      .error ⟨.unterminatedLine, ⟨2, 3, none⟩⟩ := by decide +kernel
  have answered : (lex "\"s\" !".toList none .default).outcome =
      .tokens [⟨.stringLiteral, "s".toList, ⟨1, 3, none⟩⟩,
        ⟨.endOfLine, "!".toList, ⟨1, 6, none⟩⟩] := by decide +kernel
  have found : (lex "x\n12".toList none .default).found =
      [⟨.identifier, "x".toList, ⟨1, 2, none⟩⟩, ⟨.intLiteral, "12".toList, ⟨2, 3, none⟩⟩] := by
    decide +kernel
  ⟨⟨_, exhausted⟩,
    ((lex_append_space (Or.inr ⟨_, exhausted⟩) "\"s\" !".toList).1 _ (by simp) answered).trans
      (found ▸ rfl)⟩

end LineMark
