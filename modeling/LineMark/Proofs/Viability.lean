import LineMark.Proofs.Lexer
import LineMark.Proofs.Reading.Ending
import LineMark.Unicode.Tables

/-!
Sources that can be completed. Whatever has been found before the end of a source stays found when
the source goes on, an open line is closed by a mark and an open string by a quote. Only dead code
cannot be mended, and it is told at the first character that no longer source can have there.
-/

set_option autoImplicit false
set_option relaxedAutoImplicit false

namespace LineMark

open Text (IsRun)

section

variable [Unicode.Database]

namespace Piece.Stands

variable {mode : Mode} {head : Char} {tail : Text} {fault : Fault} {place : Nat}

theorem of_unterminatedString (stands : Stands mode head tail (.fault .unterminatedString place)) :
    head = '"' ∧ '"' ∉ tail ∧ place = tail.length + 1 := by
  cases stands with
  | openString unquoted => exact ⟨rfl, unquoted, rfl⟩

theorem of_deadCode (stands : Stands mode head tail (.fault .deadCode place)) :
    ∃ good bad rest, tail = good ++ bad :: rest ∧ place = good.length + 1 ∧
      (∃ kind text ends, Stands mode head good (.marker kind text ends)) ∧
      ∀ other, Stands mode head (good ++ bad :: other) (.fault .deadCode place) := by
  cases stands with
  | @strictFault blanks trailers rest bad cut allowed refused =>
    have first_kept : ∀ other : Text, (trailers ++ bad :: other).head? =
        (trailers ++ bad :: rest).head? := by
      intro other
      cases trailers <;> rfl
    refine ⟨blanks ++ trailers, bad, rest, by simp, by simp,
      ⟨_, _, _, .strictMarker ?_ allowed⟩, ?_⟩
    · cases trailers with
      | nil => exact ⟨cut.holds, by simp⟩
      | cons first trailers => exact cut.of_head?_eq rfl
    · intro other
      rw [List.append_assoc]
      exact .strictFault (cut.of_head?_eq (first_kept other)) allowed refused
  | @debugFault blanks rest bad cut other_line =>
    refine ⟨blanks, bad, rest, rfl, rfl, ⟨_, _, _, .debugMarker cut.holds⟩, ?_⟩
    intro other
    exact .debugFault (cut.of_head?_eq rfl) other_line

end Piece.Stands

namespace Reading

open Piece (Stands)

variable {mode : Mode} {source : Text}

theorem outcome_append_mark (unended : (ofSource mode source).Unended) (file : Option Text) :
    (ofSource mode (source ++ " !".toList)).outcome (source ++ " !".toList) file =
      .tokens (tokens source file (ofSource mode source) ++
        [⟨.endOfLine, "!".toList,
          .ofOffset (source ++ " !".toList) (source.length + 2 : Nat) file⟩]) := by
  obtain ⟨pieces, split, -, same⟩ := ofText_append_space unended ['!']
  have mark : Stands mode '!' [] (.marker .endOfLine "!".toList 1) :=
    @Stands.strictMarker _ mode [] [] ⟨by simp, by simp⟩ (by simp)
  rw [ofText_of_end mark rfl] at split
  change outcome _ _ (ofText mode 0 (source ++ ' ' :: ['!'])) = _
  rw [split, outcome_append_marker, same, Nat.zero_add]
  change Outcome.tokens (tokens (source ++ " !".toList) file (ofSource mode source) ++ _) = _
  rw [tokens_ofSource_append]

theorem close_string {earlier : Reading} {offset place : Nat}
    (split : ofSource mode source = earlier ++ [(offset, .fault .unterminatedString place)]) :
    ∃ before inside, source = before ++ '"' :: inside ∧ '"' ∉ inside ∧
      offset + place = source.length ∧
      ofSource mode (source ++ ['"']) =
        earlier ++ [(offset, .lexeme .stringLiteral inside place place)] := by
  obtain ⟨before, head, inside, cut, there, stands, same⟩ := exists_split split
  obtain ⟨rfl, unquoted, rfl⟩ := stands.of_unterminatedString
  change offset = 0 + before.length at there
  refine ⟨before, inside, cut, unquoted, ?_, ?_⟩
  · rw [cut, List.length_append, List.length_cons]
    omega
  · have closed : Stands mode '"' (inside ++ ['"'])
        (.lexeme .stringLiteral inside (inside.length + 1) (inside.length + 1)) := .string unquoted
    have whole := same (inside ++ ['"'])
    rw [ofText_of_width closed rfl] at whole
    rw [cut, List.append_assoc]
    change ofText mode 0 (before ++ '"' :: (inside ++ ['"'])) = _
    simpa using whole

theorem cut_deadCode {earlier : Reading} {offset place : Nat}
    (split : ofSource mode source = earlier ++ [(offset, .fault .deadCode place)]) :
    ∃ kept bad rest, source = kept ++ bad :: rest ∧ offset + place = kept.length ∧
      (∃ kind text ends, ofSource mode kept = earlier ++ [(offset, .marker kind text ends)] ∧
        Lexeme.IsMarker (kind, text)) ∧
      ∀ more, ofSource mode (kept ++ bad :: more) =
        earlier ++ [(offset, .fault .deadCode place)] := by
  obtain ⟨before, head, tail, cut, there, stands, same⟩ := exists_split split
  obtain ⟨good, bad, rest, rfl, rfl, ⟨kind, text, ends, marker⟩, dead⟩ := stands.of_deadCode
  change offset = 0 + before.length at there
  refine ⟨before ++ head :: good, bad, rest, by simp [cut], ?_, ⟨kind, text, ends, ?_, ?_⟩, ?_⟩
  · rw [List.length_append, List.length_cons]
    omega
  · exact (same good).trans (by rw [ofText_of_end marker rfl])
  · exact marker.isMarker
  · intro more
    rw [List.append_assoc, List.cons_append]
    exact (same (good ++ bad :: more)).trans (by rw [ofText_of_end (dead more) rfl])

end Reading

namespace Lexer

open Reading (ofSource)

variable {source : Text} {file : Option Text} {settings : Settings}

private theorem lex_append_mark (unended : (ofSource settings.mode source).Unended) :
    (lex (source ++ " !".toList) file settings).outcome =
      .tokens ((lex source file settings).found ++
        [⟨.endOfLine, "!".toList,
          .ofOffset (source ++ " !".toList) (source.length + 2 : Nat) file⟩]) := by
  rw [outcome_lex, found_lex, Reading.outcome_append_mark unended]

private theorem found_append_quote {earlier : Reading} {offset place : Nat} {inside : Text}
    (split : ofSource settings.mode source =
      earlier ++ [(offset, .fault .unterminatedString place)])
    (closed : ofSource settings.mode (source ++ ['"']) =
      earlier ++ [(offset, .lexeme .stringLiteral inside place place)])
    (there : offset + place = source.length) :
    (lex (source ++ ['"']) file settings).found =
      (lex source file settings).found ++
        [⟨.stringLiteral, inside, .ofOffset source source.length file⟩] := by
  have untouched := Reading.tokens_ofSource_append settings.mode source ['"'] file
  have faultless : ∀ text, Reading.tokens text file (ofSource settings.mode source) =
      Reading.tokens text file earlier := by
    intro text
    rw [split, Reading.tokens_append]
    exact List.append_nil _
  rw [faultless, faultless] at untouched
  rw [found_lex, found_lex, faultless, closed, Reading.tokens_append, untouched,
    ← Location.ofOffset_append (Nat.le_refl _) ['"'] file, ← there]
  rfl

private theorem lex_append_quote {place : Location}
    (answered : (lex source file settings).outcome = .error ⟨.unterminatedString, place⟩) :
    ∃ before inside, source = before ++ '"' :: inside ∧ '"' ∉ inside ∧
      (lex (source ++ "\" !".toList) file settings).outcome =
        .tokens ((lex source file settings).found ++
          [⟨.stringLiteral, inside, .ofOffset source source.length file⟩,
            ⟨.endOfLine, "!".toList,
              .ofOffset (source ++ "\" !".toList) (source.length + 3 : Nat) file⟩]) := by
  rw [outcome_lex] at answered
  obtain ⟨earlier, offset, ends, split, -⟩ := Reading.split_of_error (by decide) answered
  obtain ⟨before, inside, cut, unquoted, there, closed⟩ := Reading.close_string split
  refine ⟨before, inside, cut, unquoted, ?_⟩
  have goes_on : Reading.status source file (ofSource settings.mode (source ++ ['"'])) =
      .scanning := by
    rw [closed]
    simp [Reading.status]
  have ended : (lex (source ++ ['"'] ++ " !".toList) file settings).outcome = _ :=
    lex_append_mark (Reading.unended_ofText_iff.mpr goes_on)
  rw [found_append_quote split closed there, List.append_assoc, List.append_assoc,
    List.length_append] at ended
  exact ended

private theorem lex_take_deadCode {place : Location}
    (answered : (lex source file settings).outcome = .error ⟨.deadCode, place⟩) :
    ∃ k < source.length,
      (∀ other ≤ source.length, place = .ofOffset source other file ↔ other = k) ∧
      (∃ earlier marker,
        (lex (source.take k) file settings).outcome = .tokens (earlier ++ [marker]) ∧
          marker.kind.isEndOfLine = true) ∧
      ∀ more, (lex (source.take (k + 1) ++ more) file settings).outcome =
        .error ⟨.deadCode, place⟩ := by
  rw [outcome_lex] at answered
  obtain ⟨earlier, offset, ends, split, rfl⟩ := Reading.split_of_error (by decide) answered
  obtain ⟨kept, bad, rest, rfl, there, ⟨kind, text, stop, marked, marker⟩, dead⟩ :=
    Reading.cut_deadCode split
  have inside : kept.length < (kept ++ bad :: rest).length := by simp
  rw [there]
  refine ⟨kept.length, inside, ?_, ⟨Reading.tokens kept file earlier,
    ⟨kind, text, .ofOffset kept (offset + stop : Nat) file⟩, ?_, marker.isEndOfLine⟩, ?_⟩
  · intro other within
    rw [Location.ofOffset_inj (Nat.le_of_lt inside) within, eq_comm]
  · rw [List.take_left, outcome_lex, marked, Reading.outcome_append_marker]
  · intro more
    have cut : (kept ++ bad :: rest).take (kept.length + 1) = kept ++ [bad] := by
      rw [List.take_length_add_append]
      rfl
    rw [cut, List.append_assoc, List.singleton_append, outcome_lex, dead,
      Reading.outcome_append_fault, there,
      Location.ofOffset_append (Nat.le_refl _) (bad :: more) file,
      Location.ofOffset_append (Nat.le_refl _) (bad :: rest) file]

private theorem exists_completion
    (alive : ¬∃ place, (lex source file settings).outcome = .error ⟨.deadCode, place⟩) :
    ∃ more tokens, (lex (source ++ more) file settings).outcome = .tokens tokens := by
  rcases Reading.ofSource_cases settings.mode source with
    unended | ⟨earlier, offset, kind, text, place, split⟩ |
      ⟨earlier, offset, fault, place, split, known⟩
  · exact ⟨" !".toList, _, lex_append_mark unended⟩
  · refine ⟨[], ?_⟩
    rw [List.append_nil, outcome_lex, split, Reading.outcome_append_marker]
    exact ⟨_, rfl⟩
  · have answered : (lex source file settings).outcome =
        .error ⟨fault, .ofOffset source (offset + place : Nat) file⟩ := by
      rw [outcome_lex, split, Reading.outcome_append_fault]
    rcases known with rfl | rfl
    · obtain ⟨before, inside, -, -, closed⟩ := lex_append_quote answered
      exact ⟨_, _, closed⟩
    · exact (alive ⟨_, answered⟩).elim

/-- Only dead code keeps a source from being the start of one that a lexer accepts. An open line is
completed by a mark and an open string by a quote and a mark, both errors being told at the end of
the source; dead code is told right after an accepted source, at a character that no source can have
there. -/
theorem lex_completable (source : Text) (file : Option Text) (settings : Settings) :
    ((∃ more tokens, (lex (source ++ more) file settings).outcome = .tokens tokens) ↔
      ¬∃ place, (lex source file settings).outcome = .error ⟨.deadCode, place⟩) ∧
    ((lex source file settings).outcome = .tokens [] ∨
        (∃ place, (lex source file settings).outcome = .error ⟨.unterminatedLine, place⟩) →
      (lex (source ++ " !".toList) file settings).outcome =
        .tokens ((lex source file settings).found ++
          [⟨.endOfLine, "!".toList,
            .ofOffset (source ++ " !".toList) (source.length + 2 : Nat) file⟩])) ∧
    ((∃ place, (lex source file settings).outcome = .error ⟨.unterminatedString, place⟩) →
      ∃ before inside, source = before ++ '"' :: inside ∧ '"' ∉ inside ∧
        (lex (source ++ "\" !".toList) file settings).outcome =
          .tokens ((lex source file settings).found ++
            [⟨.stringLiteral, inside, .ofOffset source source.length file⟩,
              ⟨.endOfLine, "!".toList,
                .ofOffset (source ++ "\" !".toList) (source.length + 3 : Nat) file⟩])) ∧
    (∀ fault place, (lex source file settings).outcome = .error ⟨fault, place⟩ →
      fault ≠ .deadCode → place = .ofOffset source source.length file) ∧
    ∀ place, (lex source file settings).outcome = .error ⟨.deadCode, place⟩ →
      ∃ k < source.length,
        (∀ other ≤ source.length, place = .ofOffset source other file ↔ other = k) ∧
        (∃ earlier marker,
          (lex (source.take k) file settings).outcome = .tokens (earlier ++ [marker]) ∧
            marker.kind.isEndOfLine = true) ∧
        ∀ more, (lex (source.take (k + 1) ++ more) file settings).outcome =
          .error ⟨.deadCode, place⟩ := by
  refine ⟨⟨?_, ?_⟩, ?_, ?_, ?_, ?_⟩
  -- The text after the dead character is what follows it in the longer source.
  · rintro ⟨more, tokens, success⟩ ⟨place, dead⟩
    obtain ⟨k, inside, -, -, same⟩ := lex_take_deadCode dead
    have again := same (source.drop (k + 1) ++ more)
    rw [← List.append_assoc, List.take_append_drop, success] at again
    cases again
  · exact exists_completion
  · rintro (empty | ⟨place, answered⟩)
    · exact lex_append_mark (Reading.unended_of_tokens_nil ((outcome_lex ..).symm.trans empty))
    · exact lex_append_mark
        (Reading.unended_of_unterminatedLine ((outcome_lex ..).symm.trans answered))
  · rintro ⟨place, answered⟩
    exact lex_append_quote answered
  · intro fault place answered alive
    rw [outcome_lex] at answered
    rcases Reading.cases_of_error answered with
      ⟨same, -⟩ | ⟨earlier, offset, found, ends, split, known, same⟩
    · exact (LexError.mk.inj same).2
    · obtain ⟨rfl, rfl⟩ := LexError.mk.inj same
      rcases known with rfl | rfl
      · obtain ⟨before, inside, -, -, there, -⟩ := Reading.close_string split
        rw [there]
      · exact (alive rfl).elim
  · intro place answered
    exact lex_take_deadCode answered

end Lexer

end

theorem Lexer.lex_completable_errors :
    (lex "x".toList none .default).outcome = .error ⟨.unterminatedLine, ⟨1, 2, none⟩⟩ ∧
    (lex "x !".toList none .default).outcome =
      .tokens [⟨.identifier, "x".toList, ⟨1, 2, none⟩⟩, ⟨.endOfLine, "!".toList, ⟨1, 4, none⟩⟩] ∧
    (lex "x \"ab".toList none .default).outcome = .error ⟨.unterminatedString, ⟨1, 6, none⟩⟩ ∧
    (lex "x \"ab\" !".toList none .default).outcome =
      .tokens [⟨.identifier, "x".toList, ⟨1, 2, none⟩⟩,
        ⟨.stringLiteral, "ab".toList, ⟨1, 6, none⟩⟩, ⟨.endOfLine, "!".toList, ⟨1, 9, none⟩⟩] ∧
    (lex "x ! y".toList none .default).outcome = .error ⟨.deadCode, ⟨1, 5, none⟩⟩ ∧
    ∀ more, (lex ("x ! y".toList ++ more) none .default).outcome =
      .error ⟨.deadCode, ⟨1, 5, none⟩⟩ := by
  have open_line : (lex "x".toList none .default).outcome =
      .error ⟨.unterminatedLine, ⟨1, 2, none⟩⟩ := by decide +kernel
  have word : (lex "x".toList none .default).found =
      [⟨.identifier, "x".toList, ⟨1, 2, none⟩⟩] := by decide +kernel
  have open_string : (lex "x \"ab".toList none .default).outcome =
      .error ⟨.unterminatedString, ⟨1, 6, none⟩⟩ := by decide +kernel
  have before_string : (lex "x \"ab".toList none .default).found =
      [⟨.identifier, "x".toList, ⟨1, 2, none⟩⟩] := by decide +kernel
  have dead : (lex "x ! y".toList none .default).outcome = .error ⟨.deadCode, ⟨1, 5, none⟩⟩ := by
    decide +kernel
  obtain ⟨-, line_closed, -, -, -⟩ := lex_completable "x".toList none .default
  obtain ⟨-, -, string_closed, -, -⟩ := lex_completable "x \"ab".toList none .default
  obtain ⟨-, -, -, -, stays⟩ := lex_completable "x ! y".toList none .default
  refine ⟨open_line, ?_, open_string, ?_, dead, fun more => ?_⟩
  · exact (line_closed (Or.inr ⟨_, open_line⟩)).trans (word ▸ rfl)
  · obtain ⟨before, inside, split, unquoted, answered⟩ := string_closed ⟨_, open_string⟩
    have only_quote : inside = "ab".toList := by
      rcases before with _ | ⟨_, _ | ⟨_, _ | ⟨_, before⟩⟩⟩ <;> simp_all [List.cons_eq_append_iff]
    exact answered.trans (before_string ▸ only_quote ▸ rfl)
  · obtain ⟨k, -, only, -, same⟩ := stays _ dead
    obtain rfl : 4 = k := (only 4 (by decide)).mp (by decide)
    exact same more

end LineMark
