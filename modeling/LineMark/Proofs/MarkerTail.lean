import LineMark.Proofs.Concatenation
import LineMark.Proofs.Machine.Visits
import LineMark.Unicode.Tables

/-!
What may follow a marker. A strict marker allows white space and then trailers only, up to the end
of the source. A debug marker that has found its line break allows everything: the text after that
line break is never read.
-/

set_option autoImplicit false
set_option relaxedAutoImplicit false

namespace LineMark

open Text (IsRun)
open Unicode (isWhitespace)

section

variable [Unicode.Database]

namespace Piece.Stands

variable {mode : Mode} {head bad : Char} {tail good rest text : Text} {place : Nat}

theorem strictMarker_of_dropWhile
    (allowed : ∀ c ∈ tail.dropWhile isWhitespace, c = '!' ∨ c = '\n') :
    Stands mode '!' tail
      (.marker .endOfLine ('!' :: tail.dropWhile isWhitespace) (tail.length + 1)) := by
  obtain ⟨blanks, trailers, rfl, cut⟩ := Text.exists_isRun isWhitespace tail
  rw [cut.dropWhile_eq] at allowed ⊢
  rw [List.length_append]
  exact .strictMarker cut allowed

theorem strictFault_of_dropWhile (split : tail.dropWhile isWhitespace = good ++ bad :: rest)
    (allowed : ∀ c ∈ good, c = '!' ∨ c = '\n') (refused : ¬(bad = '!' ∨ bad = '\n')) :
    Stands mode '!' tail
      (.fault .deadCode ((tail.takeWhile isWhitespace).length + good.length + 1)) := by
  obtain ⟨blanks, after, rfl, cut⟩ := Text.exists_isRun isWhitespace tail
  rw [cut.dropWhile_eq] at split
  rw [cut.takeWhile_eq]
  subst split
  exact .strictFault cut allowed refused

theorem of_endOfLine (stands : Stands mode head tail (.marker .endOfLine text place)) :
    head = '!' ∧ ∀ c ∈ tail.dropWhile isWhitespace, c = '!' ∨ c = '\n' := by
  cases stands with
  | strictMarker cut allowed =>
    rw [cut.dropWhile_eq]
    exact ⟨rfl, allowed⟩

theorem of_debugEndOfLine (stands : Stands mode head tail (.marker .debugEndOfLine text place)) :
    head = '?' ∧ ∃ taken rest, tail = taken ++ rest ∧ place = taken.length + 1 ∧
      (∀ c ∈ taken, isWhitespace c = true) ∧ ('\n' ∉ taken → rest = []) ∧
      (mode.markerCrossesLines = false → '\n' ∈ taken → taken.getLast? = some '\n' ∧
        ∀ other, Stands mode '?' (taken ++ other) (.marker .debugEndOfLine text place)) := by
  cases stands with
  | debugMarker blanks =>
    refine ⟨rfl, tail, [], by simp, rfl, ?_, fun _ => rfl, ?_⟩
    · intro c member
      have skipped := blanks c member
      simp only [isMarkerBlank, Bool.and_eq_true] at skipped
      exact skipped.1
    · intro stopping broken
      have skipped := blanks '\n' broken
      simp [isMarkerBlank, stopping] at skipped
  | @debugLine blanks rest cut =>
    refine ⟨rfl, blanks ++ ['\n'], rest, by simp, by simp, ?_, by simp, ?_⟩
    · intro c member
      rcases List.mem_append.mp member with blank | line
      · have skipped := cut.holds c blank
        simp only [isMarkerBlank, Bool.and_eq_true] at skipped
        exact skipped.1
      · rw [List.mem_singleton.mp line]
        decide
    · intro _ _
      refine ⟨by simp, fun other => ?_⟩
      rw [List.append_assoc]
      exact .debugLine (cut.of_head?_eq rfl)

end Piece.Stands

namespace Lexer

open Reading (ofSource)

variable {before source after good rest : Text} {bad : Char} {file : Option Text}
  {settings : Settings} {found : List Token} {marker : Token}

private theorem lex_strictMarker (unended : (ofSource settings.mode before).Unended)
    (allowed : ∀ c ∈ after.dropWhile isWhitespace, c = '!' ∨ c = '\n') :
    (lex (before ++ ' ' :: '!' :: after) file settings).outcome =
      .tokens ((lex before file settings).found ++
        [⟨.endOfLine, '!' :: after.dropWhile isWhitespace,
          .ofOffset (before ++ ' ' :: '!' :: after) (before ++ ' ' :: '!' :: after).length
            file⟩]) := by
  have stands : Piece.Stands settings.mode '!' after _ := .strictMarker_of_dropWhile allowed
  have read : ofSource settings.mode ('!' :: after) = _ := Reading.ofText_of_end stands rfl 0
  have length : (before ++ ' ' :: '!' :: after).length =
      before.length + 1 + (0 + (after.length + 1)) := by
    simp only [List.length_append, List.length_cons]
    omega
  rw [outcome_lex, found_lex, Reading.outcome_append_space unended, read]
  change Outcome.tokens (_ ++ [⟨.endOfLine, '!' :: after.dropWhile isWhitespace,
    (Location.ofOffset ('!' :: after) (0 + (after.length + 1) : Nat) file).behind
      (before ++ [' '])⟩]) = _
  rw [Reading.ofOffset_append_space, length]

private theorem lex_strictFault (unended : (ofSource settings.mode before).Unended)
    (refused : ¬∀ c ∈ after.dropWhile isWhitespace, c = '!' ∨ c = '\n') :
    ∃ good bad rest, after.dropWhile isWhitespace = good ++ bad :: rest ∧
      (∀ c ∈ good, c = '!' ∨ c = '\n') ∧ ¬(bad = '!' ∨ bad = '\n') ∧
      (lex (before ++ ' ' :: '!' :: after) file settings).outcome =
        .error ⟨.deadCode, .ofOffset (before ++ ' ' :: '!' :: after)
          (before.length + 2 + (after.takeWhile isWhitespace).length + good.length : Nat)
          file⟩ := by
  obtain ⟨good, others, split, cut⟩ :=
    Text.exists_isRun (fun c => c = '!' ∨ c = '\n') (after.dropWhile isWhitespace)
  have allowed : ∀ c ∈ good, c = '!' ∨ c = '\n' := by simpa using cut.holds
  cases others with
  | nil =>
    rw [split, List.append_nil] at refused
    exact (refused allowed).elim
  | cons bad rest =>
    have stopped : ¬(bad = '!' ∨ bad = '\n') := by simpa using cut.stops bad rfl
    have stands : Piece.Stands settings.mode '!' after _ :=
      .strictFault_of_dropWhile split allowed stopped
    have read : ofSource settings.mode ('!' :: after) = _ := Reading.ofText_of_end stands rfl 0
    have place : before.length + 2 + (after.takeWhile isWhitespace).length + good.length =
        before.length + 1 + (0 + ((after.takeWhile isWhitespace).length + good.length + 1)) := by
      omega
    refine ⟨good, bad, rest, split, allowed, stopped, ?_⟩
    rw [outcome_lex, Reading.outcome_append_space unended, read, place,
      ← Reading.ofOffset_append_space]
    rfl

private theorem lex_append_trailers
    (answered : (lex source file settings).outcome = .tokens (found ++ [marker]))
    (strict : marker.kind = .endOfLine) {more : Text} (trailers : ∀ c ∈ more, c = '!' ∨ c = '\n') :
    ∃ last, (lex (source ++ more) file settings).outcome = .tokens (found ++ [last]) ∧
      last.kind = .endOfLine := by
  rw [outcome_lex] at answered
  obtain ⟨before, head, tail, place, rfl, stands, -, -, replaced⟩ :=
    Reading.exists_marker_split answered
  rw [strict] at stands
  obtain ⟨rfl, allowed⟩ := stands.of_endOfLine
  have still_allowed : ∀ c ∈ (tail ++ more).dropWhile isWhitespace, c = '!' ∨ c = '\n' := by
    intro c member
    rw [List.dropWhile_append] at member
    split at member
    · exact trailers c ((List.dropWhile_sublist _).subset member)
    · rcases List.mem_append.mp member with here | added
      · exact allowed c here
      · exact trailers c added
  have again : Piece.Stands settings.mode '!' (tail ++ more) _ :=
    .strictMarker_of_dropWhile still_allowed
  rw [List.append_assoc, List.cons_append, outcome_lex]
  exact ⟨_, replaced (tail ++ more) _ _ _ again, rfl⟩

/-- A source that a scan reads to its end without a fault, a space, a strict marker and any text: it
is accepted exactly if the text has nothing but trailers after its white space, which then belong to
the marker, and else it is refused at the first character that is no trailer. So trailers can be
added to every source that ends with a strict marker. -/
theorem lex_append_strictMarker (file : Option Text) (settings : Settings) :
    (∀ before, ((lex before file settings).outcome = .tokens [] ∨
        ∃ place, (lex before file settings).outcome = .error ⟨.unterminatedLine, place⟩) →
      ∀ after,
        ((∃ tokens, (lex (before ++ ' ' :: '!' :: after) file settings).outcome =
            .tokens tokens) ↔
          ∀ c ∈ after.dropWhile isWhitespace, c = '!' ∨ c = '\n') ∧
        ((∀ c ∈ after.dropWhile isWhitespace, c = '!' ∨ c = '\n') →
          (lex (before ++ ' ' :: '!' :: after) file settings).outcome =
            .tokens ((lex before file settings).found ++
              [⟨.endOfLine, '!' :: after.dropWhile isWhitespace,
                .ofOffset (before ++ ' ' :: '!' :: after)
                  (before ++ ' ' :: '!' :: after).length file⟩])) ∧
        ((¬∀ c ∈ after.dropWhile isWhitespace, c = '!' ∨ c = '\n') →
          ∃ good bad rest, after.dropWhile isWhitespace = good ++ bad :: rest ∧
            (∀ c ∈ good, c = '!' ∨ c = '\n') ∧ ¬(bad = '!' ∨ bad = '\n') ∧
            (lex (before ++ ' ' :: '!' :: after) file settings).outcome =
              .error ⟨.deadCode, .ofOffset (before ++ ' ' :: '!' :: after)
                (before.length + 2 + (after.takeWhile isWhitespace).length + good.length : Nat)
                file⟩)) ∧
    ∀ source found marker, (lex source file settings).outcome = .tokens (found ++ [marker]) →
      marker.kind = .endOfLine → ∀ more, (∀ c ∈ more, c = '!' ∨ c = '\n') →
        ∃ last, (lex (source ++ more) file settings).outcome = .tokens (found ++ [last]) ∧
          last.kind = .endOfLine := by
  constructor
  · intro before exhausted after
    rw [outcome_lex] at exhausted
    have unended := Reading.unended_ofSource_iff.mpr exhausted
    refine ⟨⟨?_, ?_⟩, lex_strictMarker unended, lex_strictFault unended⟩
    · rintro ⟨tokens, accepted⟩
      by_contra refused
      obtain ⟨good, bad, rest, -, -, -, answered⟩ := lex_strictFault unended refused
      rw [answered] at accepted
      cases accepted
    · intro allowed
      exact ⟨_, lex_strictMarker unended allowed⟩
  · intro source found marker answered strict more trailers
    exact lex_append_trailers answered strict trailers

end Lexer

end

theorem Lexer.lex_append_strictMarker_number :
    (lex "x 12".toList none .default).outcome = .error ⟨.unterminatedLine, ⟨1, 5, none⟩⟩ ∧
      (lex "x 12 ! \n!".toList none .default).outcome =
        .tokens [⟨.identifier, "x".toList, ⟨1, 2, none⟩⟩, ⟨.intLiteral, "12".toList, ⟨1, 5, none⟩⟩,
          ⟨.endOfLine, "!!".toList, ⟨2, 2, none⟩⟩] ∧
      (¬∃ tokens, (lex "x 12 !! ".toList none .default).outcome = .tokens tokens) ∧
      ∃ last, (lex "x 12 ! \n!\n!".toList none .default).outcome =
        .tokens ([⟨.identifier, "x".toList, ⟨1, 2, none⟩⟩,
          ⟨.intLiteral, "12".toList, ⟨1, 5, none⟩⟩] ++ [last]) ∧ last.kind = .endOfLine := by
  have exhausted : (lex "x 12".toList none .default).outcome =
      .error ⟨.unterminatedLine, ⟨1, 5, none⟩⟩ := by decide +kernel
  have found : (lex "x 12".toList none .default).found =
      [⟨.identifier, "x".toList, ⟨1, 2, none⟩⟩, ⟨.intLiteral, "12".toList, ⟨1, 5, none⟩⟩] := by
    decide +kernel
  obtain ⟨marked, trailed⟩ := lex_append_strictMarker none .default
  have trailers : [' ', '\n', '!'].dropWhile isWhitespace = ['!'] := by decide
  have dead : ['!', ' '].dropWhile isWhitespace = ['!', ' '] := by decide
  have accepted : (lex "x 12 ! \n!".toList none .default).outcome = _ :=
    (marked _ (Or.inr ⟨_, exhausted⟩) " \n!".toList).2.1 (by simp [trailers])
  rw [found] at accepted
  have refused := (marked _ (Or.inr ⟨_, exhausted⟩) "! ".toList).1
  refine ⟨exhausted, accepted, ?_, ?_⟩
  · intro success
    exact absurd (refused.mp success) (by simp [dead])
  · exact trailed _ _ _ accepted rfl ['\n', '!'] (by simp)

section

variable [Unicode.Database]

/-- The scan of the source dispatches a debug marker, which takes white space after it. The token
stands where that ends, and nothing else is read. -/
structure Machine.TakesDebugMarker (mode : Mode) (source : Text) (file : Option Text)
    (marker : Token) (before taken rest : Text) : Prop where
  cut : source = before ++ '?' :: (taken ++ rest)
  visited : Visits tokenGap mode source file before.length '?'
  blank : ∀ c ∈ taken, isWhitespace c = true
  located : ∀ offset ≤ source.length,
    marker.location = .ofOffset source offset file ↔ offset = before.length + 1 + taken.length

namespace Machine

variable {mode : Mode} {source before taken rest : Text} {file : Option Text} {marker : Token}
  {found : List Token}

theorem TakesDebugMarker.getElem?_eq
    (takes : TakesDebugMarker mode source file marker before taken rest) :
    source[before.length + taken.length]? = ('?' :: taken).getLast? := by
  rw [takes.cut, List.getElem?_append_right (Nat.le_add_right _ _), Nat.add_sub_cancel_left,
    ← List.cons_append, List.getElem?_append_left (Nat.lt_succ_self _),
    List.getLast?_eq_getElem?]
  rfl

theorem TakesDebugMarker.take_eq
    (takes : TakesDebugMarker mode source file marker before taken rest) :
    source.take (before.length + 1 + taken.length) = before ++ '?' :: taken := by
  have length : before.length + 1 + taken.length = (before ++ '?' :: taken).length := by
    simp only [List.length_append, List.length_cons]
    omega
  rw [takes.cut, ← List.cons_append, ← List.append_assoc, length, List.take_left]

theorem exists_takesDebugMarker
    (answered : (Reading.ofSource mode source).outcome source file =
      .tokens (found ++ [marker])) (debug : marker.kind = .debugEndOfLine) :
    ∃ before taken rest, TakesDebugMarker mode source file marker before taken rest ∧
      ('\n' ∉ taken → rest = []) ∧
      (mode.markerCrossesLines = false → '\n' ∈ taken → taken.getLast? = some '\n' ∧
        ∀ other, (Reading.ofSource mode (before ++ '?' :: (taken ++ other))).outcome
          (before ++ '?' :: (taken ++ other)) file = .tokens (found ++ [marker])) := by
  obtain ⟨before, head, tail, place, rfl, stands, member, there, replaced⟩ :=
    Reading.exists_marker_split answered
  obtain ⟨kind, text, location⟩ := marker
  simp only at debug stands member there
  subst debug
  obtain ⟨rfl, taken, rest, rfl, rfl, blank, ended, broken⟩ := stands.of_debugEndOfLine
  have inside : before.length + (taken.length + 1) ≤ (before ++ '?' :: taken).length := by
    rw [List.length_append, List.length_cons]
  have placed : ∀ more, Location.ofOffset (before ++ '?' :: (taken ++ more))
      (before.length + (taken.length + 1) : Nat) file =
        .ofOffset (before ++ '?' :: taken) (before.length + (taken.length + 1) : Nat) file := by
    intro more
    rw [← Location.ofOffset_append inside more file, List.append_assoc, List.cons_append]
  refine ⟨before, taken, rest, ⟨rfl, ?_, blank, ?_⟩, ended, ?_⟩
  · refine (visits_iff tokenGap file rfl ?_).mpr (stands.ofText_eq ▸ member)
    rw [stands.ofText_eq]
    nofun
  · intro offset within_source
    have short : before.length + (taken.length + 1) ≤
        (before ++ '?' :: (taken ++ rest)).length := by
      simp only [List.length_append, List.length_cons]
      omega
    change location = _ ↔ _
    rw [there, Location.ofOffset_inj short within_source]
    omega
  · intro stopping line
    obtain ⟨last, again⟩ := broken stopping line
    refine ⟨last, fun other => ?_⟩
    rw [replaced (taken ++ other) _ _ _ (again other), placed, there, placed]

end Machine

namespace Lexer

open Machine (TakesDebugMarker)

variable {source : Text} {file : Option Text} {settings : Settings} {found : List Token}
  {marker : Token}

/-- A debug marker at the end of an accepted source takes white space after it. If there is no line
break in this, it is all of the source that was left. A marker that does not cross lines otherwise
stands right after a line break, and whatever is written from there on instead, the answer is the
same. -/
theorem lex_debugMarker_tail
    (answered : (lex source file settings).outcome = .tokens (found ++ [marker]))
    (debug : marker.kind = .debugEndOfLine) :
    ∃ before taken rest,
      TakesDebugMarker settings.mode source file marker before taken rest ∧
      ('\n' ∉ taken → rest = [] ∧ marker.location = .ofOffset source source.length file) ∧
      (settings.markerCrossesLines.isTruthy = false → ∀ offset ≤ source.length,
        marker.location = .ofOffset source offset file →
          (source[offset - 1]? = some '\n' ↔ '\n' ∈ taken) ∧
          (source[offset - 1]? = some '\n' → ∀ other,
            (lex (source.take offset ++ other) file settings).outcome =
              .tokens (found ++ [marker]))) := by
  rw [outcome_lex] at answered
  obtain ⟨before, taken, rest, takes, ended, broken⟩ :=
    Machine.exists_takesDebugMarker answered debug
  refine ⟨before, taken, rest, takes, ?_, ?_⟩
  · intro unbroken
    have whole := ended unbroken
    refine ⟨whole, (takes.located source.length (Nat.le_refl _)).mpr ?_⟩
    rw [takes.cut, whole, List.append_nil, List.length_append, List.length_cons]
    omega
  · intro stopping offset inside there
    obtain rfl := (takes.located offset inside).mp there
    have index : before.length + 1 + taken.length - 1 = before.length + taken.length := by omega
    have line_iff : source[before.length + 1 + taken.length - 1]? = some '\n' ↔ '\n' ∈ taken := by
      rw [index, takes.getElem?_eq]
      constructor
      · intro last
        rcases List.mem_cons.mp (List.mem_of_getLast? last) with mark | member
        · exact absurd mark (by decide)
        · exact member
      · intro member
        rw [List.getLast?_cons, (broken stopping member).1]
        rfl
    refine ⟨line_iff, fun line other => ?_⟩
    have same := (broken stopping (line_iff.mp line)).2 other
    rw [takes.take_eq, outcome_lex, List.append_assoc, List.cons_append]
    exact same

end Lexer

end

theorem Lexer.lex_debugMarker_tail_next_line :
    (lex "x ? \n\ty".toList none .default).outcome =
        .tokens [⟨.identifier, "x".toList, ⟨1, 2, none⟩⟩,
          ⟨.debugEndOfLine, "?".toList, ⟨2, 1, none⟩⟩] ∧
      (lex "x ? \n(\"".toList none .default).outcome =
        .tokens [⟨.identifier, "x".toList, ⟨1, 2, none⟩⟩,
          ⟨.debugEndOfLine, "?".toList, ⟨2, 1, none⟩⟩] := by
  have answered : (lex "x ? \n\ty".toList none .default).outcome =
      .tokens ([⟨.identifier, "x".toList, ⟨1, 2, none⟩⟩] ++
        [⟨.debugEndOfLine, "?".toList, ⟨2, 1, none⟩⟩]) := by
    decide +kernel
  obtain ⟨before, taken, rest, -, -, broken⟩ := lex_debugMarker_tail answered rfl
  have boundary := broken rfl 5 (by decide) (by decide)
  exact ⟨answered, boundary.2 rfl "(\"".toList⟩

end LineMark
