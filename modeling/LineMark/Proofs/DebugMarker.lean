import LineMark.Proofs.Lexer
import LineMark.Proofs.Machine.Visits
import LineMark.Unicode.Tables

/-!
What the setting for debug markers decides. The white space after a debug marker is read alike
whether or not it may hold line breaks, unless a line break is the first in it to tell. There a
lexer that does not cross lines is done, and one that does demands that nothing visible follows.
-/

set_option autoImplicit false
set_option relaxedAutoImplicit false

namespace LineMark

open Text (IsRun)
open Unicode (isWhitespace)

section

variable [Unicode.Database]

namespace Piece

variable {mode : Mode} {blanks rest tail : Text} {bad : Char}

theorem ofText_debugMarker_cases (tail : Text) :
    (∀ first second : Mode, ofText first '?' tail = ofText second '?' tail) ∨
      ∃ blanks rest, tail = blanks ++ '\n' :: rest ∧
        ∀ c ∈ blanks, isWhitespace c = true ∧ c ≠ '\n' := by
  obtain ⟨blanks, rest, rfl, cut⟩ :=
    Text.exists_isRun (fun c => isWhitespace c && c != '\n') tail
  have blank : ∀ c ∈ blanks, isWhitespace c = true ∧ c ≠ '\n' := by simpa using cut.holds
  have skipped : ∀ (mode : Mode), ∀ c ∈ blanks, isMarkerBlank mode c = true := by
    intro mode c member
    simp [isMarkerBlank, blank c member]
  cases rest with
  | nil =>
    left
    intro first second
    rw [List.append_nil, (Stands.debugMarker (skipped first)).ofText_eq,
      (Stands.debugMarker (skipped second)).ofText_eq]
  | cons bad rest =>
    by_cases line : bad = '\n'
    · subst line
      exact Or.inr ⟨blanks, rest, rfl, blank⟩
    · left
      have visible : isWhitespace bad = false := by simpa [line] using cut.stops bad rfl
      have stopped : ∀ mode : Mode, IsRun (isMarkerBlank mode) blanks (bad :: rest) :=
        fun mode => ⟨skipped mode, by simp [isMarkerBlank, visible]⟩
      intro first second
      rw [(Stands.debugFault (stopped first) line).ofText_eq,
        (Stands.debugFault (stopped second) line).ofText_eq]

theorem ofText_debugMarker_stop (stopping : mode.markerCrossesLines = false)
    (blank : ∀ c ∈ blanks, isWhitespace c = true ∧ c ≠ '\n') (rest : Text) :
    ofText mode '?' (blanks ++ '\n' :: rest) =
      .marker .debugEndOfLine "?".toList (blanks.length + 2) := by
  have cut : IsRun (isMarkerBlank mode) blanks ('\n' :: rest) := by
    refine ⟨fun c member => ?_, by simp [isMarkerBlank, stopping]⟩
    simp [isMarkerBlank, blank c member]
  exact (Stands.debugLine cut).ofText_eq

theorem ofText_debugMarker_cross (crossing : mode.markerCrossesLines = true)
    (blank : ∀ c ∈ tail, isWhitespace c = true) :
    ofText mode '?' tail = .marker .debugEndOfLine "?".toList (tail.length + 1) := by
  have skipped : ∀ c ∈ tail, isMarkerBlank mode c = true := by
    intro c member
    simp [isMarkerBlank, crossing, blank c member]
  exact (Stands.debugMarker skipped).ofText_eq

theorem ofText_debugMarker_fault (crossing : mode.markerCrossesLines = true)
    (blank : ∀ c ∈ blanks, isWhitespace c = true) (visible : isWhitespace bad = false)
    (rest : Text) :
    ofText mode '?' (blanks ++ bad :: rest) = .fault .deadCode (blanks.length + 1) := by
  have cut : IsRun (isMarkerBlank mode) blanks (bad :: rest) := by
    refine ⟨fun c member => ?_, by simp [isMarkerBlank, visible]⟩
    simp [isMarkerBlank, crossing, blank c member]
  have other : bad ≠ '\n' := by
    rintro rfl
    exact absurd visible (by decide)
  exact (Stands.debugFault cut other).ofText_eq

end Piece

namespace Reading

variable {mode : Mode} {offset : Nat} {text before tail : Text}

/-- However debug markers are read, the reading is the same, or it is the same up to a debug marker
that ends it. -/
theorem ofText_cases_of_mode (mode : Mode) (offset : Nat) (text : Text) :
    (∀ other : Mode, other.skipAfterInteger = mode.skipAfterInteger →
      ofText other offset text = ofText mode offset text) ∨
    ∃ earlier before tail, text = before ++ '?' :: tail ∧
      ∀ other : Mode, other.skipAfterInteger = mode.skipAfterInteger →
        ofText other offset text =
          earlier ++ [(offset + before.length, Piece.ofText other '?' tail)] := by
  induction offset, text using induction mode with
  | nil offset => exact Or.inl fun other _ => by rw [ofText_nil, ofText_nil]
  | step offset head tail piece width stands goes ih =>
    rcases ih with same | ⟨earlier, before, rest, cut, same⟩
    · left
      intro other alike
      rw [ofText_of_width (stands.of_width goes alike) goes, ofText_of_width stands goes,
        same other alike]
    · right
      have inside := stands.width_le goes
      refine ⟨(offset, piece) :: earlier, head :: tail.take width ++ before, rest, ?_, ?_⟩
      · rw [List.append_assoc, ← cut, List.cons_append, List.take_append_drop]
      · intro other alike
        have place : offset + (head :: tail.take width ++ before).length =
            offset + width + 1 + before.length := by
          rw [List.length_append, List.length_cons, List.length_take_of_le inside]
          omega
        rw [ofText_of_width (stands.of_width goes alike) goes, same other alike, place,
          List.cons_append]
  | stop offset head tail piece stands ends =>
    by_cases marker : head = '?'
    · subst marker
      refine Or.inr ⟨[], [], tail, rfl, fun other _ => ?_⟩
      have there := Piece.stands_ofText other '?' tail
      exact ofText_of_end there there.width?_of_debugMarker offset
    · left
      intro other alike
      have again := stands.of_mode (fun _ => alike) fun same => absurd same marker
      rw [ofText_of_end again ends, ofText_of_end stands ends]

theorem exists_earlier_of_debugMarker {piece : Piece} (cut : text = before ++ '?' :: tail)
    (member : (offset + before.length, piece) ∈ ofText mode offset text) :
    ∃ earlier, ∀ other : Mode, other.skipAfterInteger = mode.skipAfterInteger →
      ofText other offset text =
        earlier ++ [(offset + before.length, Piece.ofText other '?' tail)] := by
  obtain ⟨earlier, later, split⟩ := List.append_of_mem member
  obtain ⟨start, head, rest, other_cut, there, -, same⟩ := exists_split_of_mode split
  have lengths : before.length = start.length := Nat.add_left_cancel there
  obtain ⟨rfl, tails⟩ := List.append_inj (cut.symm.trans other_cut) lengths
  obtain ⟨rfl, rfl⟩ := List.cons.inj tails
  refine ⟨earlier, fun other alike => ?_⟩
  have stands := Piece.stands_ofText other '?' tail
  rw [cut, same other tail alike, ofText_of_end stands stands.width?_of_debugMarker]

section Outcomes

variable {source : Text} {file : Option Text} {earlier : Reading} {blanks rest : Text} {bad : Char}

private theorem outcome_of_stop (stopping : mode.markerCrossesLines = false)
    (ends : ofSource mode source =
      earlier ++ [(before.length, Piece.ofText mode '?' (blanks ++ '\n' :: rest))])
    (blank : ∀ c ∈ blanks, isWhitespace c = true ∧ c ≠ '\n') :
    (ofSource mode source).outcome source file =
      .tokens (tokens source file earlier ++ [⟨.debugEndOfLine, "?".toList,
        .ofOffset source (before.length + 1 + blanks.length + 1 : Nat) file⟩]) := by
  have place : before.length + (blanks.length + 2) = before.length + 1 + blanks.length + 1 := by
    omega
  rw [ends, Piece.ofText_debugMarker_stop stopping blank, outcome_append_marker, place]

private theorem outcome_of_cross (crossing : mode.markerCrossesLines = true)
    (ends : ofSource mode source = earlier ++ [(before.length, Piece.ofText mode '?' tail)])
    (cut : source = before ++ '?' :: tail) (blank : ∀ c ∈ tail, isWhitespace c = true) :
    (ofSource mode source).outcome source file =
      .tokens (tokens source file earlier ++
        [⟨.debugEndOfLine, "?".toList, .ofOffset source source.length file⟩]) := by
  have place : before.length + (tail.length + 1) = source.length := by
    rw [cut, List.length_append, List.length_cons]
  rw [ends, Piece.ofText_debugMarker_cross crossing blank, outcome_append_marker, place]

private theorem outcome_of_fault (crossing : mode.markerCrossesLines = true)
    (ends : ofSource mode source =
      earlier ++ [(before.length, Piece.ofText mode '?' (blanks ++ bad :: rest))])
    (blank : ∀ c ∈ blanks, isWhitespace c = true) (visible : isWhitespace bad = false) :
    (ofSource mode source).outcome source file =
      .error ⟨.deadCode, .ofOffset source (before.length + 1 + blanks.length : Nat) file⟩ := by
  have place : before.length + (blanks.length + 1) = before.length + 1 + blanks.length := by
    omega
  rw [ends, Piece.ofText_debugMarker_fault crossing blank visible, outcome_append_fault, place]

end Outcomes

end Reading

/-- The scan dispatches a debug marker that a line break follows, after no more than other white
space. -/
structure Machine.MeetsBreak (mode : Mode) (source : Text) (file : Option Text)
    (before blanks rest : Text) : Prop where
  cut : source = before ++ '?' :: (blanks ++ '\n' :: rest)
  blank : ∀ c ∈ blanks, isWhitespace c = true ∧ c ≠ '\n'
  visited : Visits tokenGap mode source file before.length '?'

/-- What two lexers answer about a source with a debug marker before a line break, after the same
earlier tokens. The one stops right after the line break; the other crosses it, and all the rest of
the source must be white space to it. -/
structure Outcome.PartAtBreak (source : Text) (file : Option Text) (before blanks rest : Text)
    (earlier : List Token) (stopped crossed : Outcome) : Prop where
  stopped_eq : stopped = .tokens (earlier ++ [⟨.debugEndOfLine, "?".toList,
    .ofOffset source (before.length + 1 + blanks.length + 1 : Nat) file⟩])
  crossed_iff : (∃ found, crossed = .tokens found) ↔
    ∀ c ∈ blanks ++ '\n' :: rest, isWhitespace c = true
  crossed_eq : ∀ found, crossed = .tokens found → found = earlier ++
    [⟨.debugEndOfLine, "?".toList, .ofOffset source source.length file⟩]
  refused_eq : ∀ passed bad others, blanks ++ '\n' :: rest = passed ++ bad :: others →
    (∀ c ∈ passed, isWhitespace c = true) → isWhitespace bad = false →
      crossed = .error ⟨.deadCode,
        .ofOffset source (before.length + 1 + passed.length : Nat) file⟩

namespace Machine

variable {mode : Mode} {source : Text} {file : Option Text} {before blanks rest : Text}

private theorem debugMarker_ne_gap (mode : Mode) (tail : Text) :
    Piece.ofText mode '?' tail ≠ .gap := by
  intro gap
  have ends := (Piece.stands_ofText mode '?' tail).width?_of_debugMarker
  rw [gap] at ends
  cases ends

theorem ofSource_eq_of_not_meetsBreak
    (unbroken : ∀ before blanks rest, ¬MeetsBreak mode source file before blanks rest)
    {first second : Mode} (first_alike : first.skipAfterInteger = mode.skipAfterInteger)
    (second_alike : second.skipAfterInteger = mode.skipAfterInteger) :
    Reading.ofSource first source = Reading.ofSource second source := by
  rcases Reading.ofText_cases_of_mode mode 0 source with same | ⟨earlier, before, tail, cut, same⟩
  · exact (same first first_alike).trans (same second second_alike).symm
  · rcases Piece.ofText_debugMarker_cases tail with alike | ⟨blanks, rest, rfl, blank⟩
    · rw [Reading.ofSource, Reading.ofSource, same first first_alike, same second second_alike,
        alike first second]
    · have visited : Visits tokenGap mode source file before.length '?' := by
        rw [visits_iff tokenGap file cut (debugMarker_ne_gap mode _), Reading.ofSource,
          same mode rfl]
        simp
      exact (unbroken before blanks rest ⟨cut, blank, visited⟩).elim

theorem MeetsBreak.exists_partAtBreak (meets : MeetsBreak mode source file before blanks rest)
    {stops crosses : Mode} (stops_alike : stops.skipAfterInteger = mode.skipAfterInteger)
    (crosses_alike : crosses.skipAfterInteger = mode.skipAfterInteger)
    (stopping : stops.markerCrossesLines = false) (crossing : crosses.markerCrossesLines = true) :
    ∃ earlier, Outcome.PartAtBreak source file before blanks rest earlier
      ((Reading.ofSource stops source).outcome source file)
      ((Reading.ofSource crosses source).outcome source file) := by
  obtain ⟨cut, blank, visited⟩ := meets
  have member := (visits_iff tokenGap file cut (debugMarker_ne_gap mode _)).mp visited
  rw [← Nat.zero_add before.length] at member
  obtain ⟨earlier, same⟩ := Reading.exists_earlier_of_debugMarker cut member
  simp only [Nat.zero_add] at same
  have crossed := same crosses crosses_alike
  have blank_of_accepted : ∀ found,
      (Reading.ofSource crosses source).outcome source file = .tokens found →
        ∀ c ∈ blanks ++ '\n' :: rest, isWhitespace c = true := by
    intro found accepted
    obtain ⟨passed, remaining, split, run⟩ :=
      Text.exists_isRun isWhitespace (blanks ++ '\n' :: rest)
    cases remaining with
    | nil =>
      rw [split, List.append_nil]
      exact run.holds
    | cons bad others =>
      rw [split] at crossed
      rw [Reading.outcome_of_fault crossing crossed run.holds (run.stops bad rfl)] at accepted
      cases accepted
  refine ⟨Reading.tokens source file earlier, ?_, ⟨?_, ?_⟩, ?_, ?_⟩
  · exact Reading.outcome_of_stop stopping (same stops stops_alike) blank
  · rintro ⟨found, accepted⟩
    exact blank_of_accepted found accepted
  · intro all_blank
    exact ⟨_, Reading.outcome_of_cross crossing crossed cut all_blank⟩
  · intro found accepted
    have all_blank := blank_of_accepted found accepted
    rw [Reading.outcome_of_cross crossing crossed cut all_blank] at accepted
    exact (Outcome.tokens.inj accepted).symm
  · intro passed bad others split passed_blank visible
    rw [split] at crossed
    exact Reading.outcome_of_fault crossing crossed passed_blank visible

end Machine

namespace Lexer

open Machine (MeetsBreak)

variable {source : Text} {file : Option Text} {skips flag : Datum}

private theorem outcome_eq_of_not_meetsBreak
    (unmet : ∀ before blanks rest,
      ¬MeetsBreak (Settings.mode ⟨skips, flag⟩) source file before blanks rest)
    (first second : Datum) :
    (lex source file ⟨skips, first⟩).outcome = (lex source file ⟨skips, second⟩).outcome := by
  have first_alike : (Settings.mode ⟨skips, first⟩).skipAfterInteger =
      (Settings.mode ⟨skips, flag⟩).skipAfterInteger := rfl
  have second_alike : (Settings.mode ⟨skips, second⟩).skipAfterInteger =
      (Settings.mode ⟨skips, flag⟩).skipAfterInteger := rfl
  have same := Machine.ofSource_eq_of_not_meetsBreak unmet first_alike second_alike
  rw [outcome_lex, outcome_lex, same]

/-- Whether debug markers cross lines makes no difference to a lexer, unless its scan meets a debug
marker that a line break follows, after no more than other white space. There a lexer that does not
cross lines succeeds, with its last token right after that line break. One that does succeeds
exactly if all that follows is white space, with its last token at the end of the source and the
same tokens before it, and else tells of dead code at the first character that is not. -/
theorem lex_markerCrossesLines {stops crosses : Datum} (stopping : stops.isTruthy = false)
    (crossing : crosses.isTruthy = true) (skips flag : Datum) (source : Text)
    (file : Option Text) :
    ((∀ before blanks rest,
        ¬MeetsBreak (Settings.mode ⟨skips, flag⟩) source file before blanks rest) →
      (lex source file ⟨skips, stops⟩).outcome = (lex source file ⟨skips, crosses⟩).outcome) ∧
    (∀ before blanks rest,
      MeetsBreak (Settings.mode ⟨skips, flag⟩) source file before blanks rest →
        ∃ earlier, Outcome.PartAtBreak source file before blanks rest earlier
          (lex source file ⟨skips, stops⟩).outcome (lex source file ⟨skips, crosses⟩).outcome) ∧
    (∀ found, (lex source file ⟨skips, crosses⟩).outcome = .tokens found →
      ∃ others, (lex source file ⟨skips, stops⟩).outcome = .tokens others ∧
        others.map Token.lexeme = found.map Token.lexeme) ∧
    ∀ place, (lex source file ⟨skips, stops⟩).outcome = .error ⟨.deadCode, place⟩ →
      (lex source file ⟨skips, crosses⟩).outcome = .error ⟨.deadCode, place⟩ := by
  have broken : ∀ before blanks rest,
      MeetsBreak (Settings.mode ⟨skips, flag⟩) source file before blanks rest →
        ∃ earlier, Outcome.PartAtBreak source file before blanks rest earlier
          (lex source file ⟨skips, stops⟩).outcome
          (lex source file ⟨skips, crosses⟩).outcome := by
    intro before blanks rest meets
    have stops_alike : (Settings.mode ⟨skips, stops⟩).skipAfterInteger =
        (Settings.mode ⟨skips, flag⟩).skipAfterInteger := rfl
    have crosses_alike : (Settings.mode ⟨skips, crosses⟩).skipAfterInteger =
        (Settings.mode ⟨skips, flag⟩).skipAfterInteger := rfl
    rw [outcome_lex, outcome_lex]
    exact meets.exists_partAtBreak stops_alike crosses_alike stopping crossing
  refine ⟨?_, broken, ?_, ?_⟩
  · intro unmet
    exact outcome_eq_of_not_meetsBreak unmet stops crosses
  · intro found accepted
    by_cases met : ∃ before blanks rest,
      MeetsBreak (Settings.mode ⟨skips, flag⟩) source file before blanks rest
    · obtain ⟨before, blanks, rest, meets⟩ := met
      obtain ⟨earlier, part⟩ := broken before blanks rest meets
      refine ⟨_, part.stopped_eq, ?_⟩
      rw [part.crossed_eq found accepted, List.map_append, List.map_append]
      rfl
    · simp only [not_exists] at met
      exact ⟨found, (outcome_eq_of_not_meetsBreak met stops crosses).trans accepted, rfl⟩
  · intro place refused
    by_cases met : ∃ before blanks rest,
      MeetsBreak (Settings.mode ⟨skips, flag⟩) source file before blanks rest
    · obtain ⟨before, blanks, rest, meets⟩ := met
      obtain ⟨earlier, part⟩ := broken before blanks rest meets
      rw [part.stopped_eq] at refused
      cases refused
    · simp only [not_exists] at met
      exact (outcome_eq_of_not_meetsBreak met stops crosses).symm.trans refused

end Lexer

end

theorem Lexer.lex_markerCrossesLines_next_line :
    Datum.isTruthy (.int 0) = false ∧ Datum.isTruthy (.text "no".toList) = true ∧
      (lex "x ? \n\ty".toList none ⟨.null, .int 0⟩).outcome =
        .tokens [⟨.identifier, "x".toList, ⟨1, 2, none⟩⟩,
          ⟨.debugEndOfLine, "?".toList, ⟨2, 1, none⟩⟩] ∧
      (lex "x ? \n\ty".toList none ⟨.null, .text "no".toList⟩).outcome =
        .error ⟨.deadCode, ⟨2, 2, none⟩⟩ := by
  have falsy : Datum.isTruthy (.int 0) = false := rfl
  have truthy : Datum.isTruthy (.text "no".toList) = true := by decide
  have meets : Machine.MeetsBreak (Settings.mode ⟨.null, .null⟩) "x ? \n\ty".toList none "x ".toList
      " ".toList "\ty".toList :=
    ⟨rfl, List.forall_mem_singleton.mpr (by decide),
      1, _, _, _, _, rfl, ⟨rfl, rfl, rfl, rfl, rfl⟩, rfl⟩
  obtain ⟨-, broken, -, -⟩ :=
    lex_markerCrossesLines falsy truthy .null .null "x ? \n\ty".toList none
  obtain ⟨earlier, part⟩ := broken _ _ _ meets
  refine ⟨falsy, truthy, by decide +kernel, ?_⟩
  exact part.refused_eq " \n\t".toList 'y' [] rfl (List.all_eq_true.mp rfl) (by decide)

end LineMark
