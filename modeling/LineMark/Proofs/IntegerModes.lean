import LineMark.Proofs.Lexer
import LineMark.Proofs.Reading.Prefix
import LineMark.Unicode.Tables

/-!
The two ways to go on after an integer. To pass over the character after it unread is to read a
blank in its place: a lexer that passes over these characters answers as one that does not answers
on the source in which they are blank.
-/

set_option autoImplicit false
set_option relaxedAutoImplicit false

namespace LineMark

open Text (IsRun)
open Unicode (isNumeric isWhitespace)

namespace Text

/-- The text with a space in place of every character at a marked offset, line breaks apart. -/
def blankAt (marked : Nat → Bool) (offset : Nat) : Text → Text
  | [] => []
  | c :: rest => (if marked offset && c != '\n' then ' ' else c) :: blankAt marked (offset + 1) rest

variable {marked : Nat → Bool}

theorem blankAt_append (offset : Nat) (first second : Text) :
    blankAt marked offset (first ++ second) =
      blankAt marked offset first ++ blankAt marked (offset + first.length) second := by
  induction first generalizing offset with
  | nil => rfl
  | cons c first ih =>
    rw [List.cons_append, blankAt, blankAt, ih, List.cons_append, List.length_cons, Nat.add_assoc,
      Nat.add_comm 1]

theorem blankAt_eq_self {offset : Nat} {text : Text}
    (unmarked : ∀ k, offset ≤ k → k < offset + text.length → marked k = false) :
    blankAt marked offset text = text := by
  induction text generalizing offset with
  | nil => rfl
  | cons c text ih =>
    have here : marked offset = false := unmarked offset (Nat.le_refl _) (by simp)
    rw [blankAt, here, ih fun k above below => unmarked k (by omega) (by simp; omega)]
    rfl

theorem head?_blankAt {offset : Nat} {text : Text}
    (unmarked : text ≠ [] → marked offset = false) :
    (blankAt marked offset text).head? = text.head? := by
  cases text with
  | nil => rfl
  | cons c text => simp [blankAt, unmarked]

theorem breaks_blankAt (offset : Nat) (text : Text) :
    (blankAt marked offset text).breaks = text.breaks := by
  induction text generalizing offset with
  | nil => rfl
  | cons c text ih =>
    have same : ((if marked offset && c != '\n' then ' ' else c) == '\n') = (c == '\n') := by
      split
      case isTrue blanked => simp_all
      case isFalse => rfl
    have rest : (blankAt marked (offset + 1) text).map (· == '\n') = text.map (· == '\n') :=
      ih (offset + 1)
    simp only [breaks, blankAt, List.map_cons, same, rest]

end Text

namespace Reading

variable {source : Text} {file : Option Text}

def afterInteger? : Nat × Piece → Option Nat
  | (offset, .lexeme kind _ place _) => if kind = .intLiteral then some (offset + place) else none
  | _ => none

def afterIntegers (reading : Reading) : List Nat :=
  reading.filterMap afterInteger?

theorem afterIntegers_cons (entry : Nat × Piece) (reading : Reading) :
    afterIntegers (entry :: reading) = (afterInteger? entry).toList ++ afterIntegers reading := by
  simp only [afterIntegers, List.filterMap_cons]
  cases afterInteger? entry <;> rfl

def Agree (source : Text) (file : Option Text) (first second : Reading) : Prop :=
  tokens source file first = tokens source file second ∧
    status source file first = status source file second

theorem outcome_of_agree {first second : Reading} (agree : Agree source file first second) :
    outcome source file first = outcome source file second := by
  rw [outcome_eq, outcome_eq, agree.1, agree.2]

theorem outcome_of_breaks {first second : Text} (same : first.breaks = second.breaks)
    (file : Option Text) (reading : Reading) :
    outcome first file reading = outcome second file reading := by
  have length : first.length = second.length := by
    simpa [Text.breaks] using congrArg List.length same
  have place := fun offset => Location.ofOffset_of_breaks same offset file
  have token : token? first file = token? second file := by
    funext entry
    obtain ⟨offset, piece⟩ := entry
    cases piece <;> simp only [token?, place]
  have listed : tokens first file reading = tokens second file reading := by
    rw [tokens, token, tokens]
  simp only [outcome, listed, place, length]

end Reading

section

variable [Unicode.Database]

namespace Reading

open Piece (Stands)

variable {mode first second : Mode} {source : Text} {file : Option Text}

private theorem isNumeric_of_kind {head : Char} {tail text : Text} {kind : Token.Kind}
    {place width : Nat} (stands : Stands mode head tail (.lexeme kind text place width))
    (integer : kind = .intLiteral) : isNumeric head = true := by
  cases stands with
  | string | arrow | equals => cases integer
  | punctuation member =>
    subst integer
    exact ((Token.CharClass.kind_of_punctuation member).2.2 (by simp)).elim
  | integer numeric | integerSkip numeric => exact numeric
  | word => exact (Token.Kind.ne_of_isWord (Token.Word.isWord_kind _) rfl integer).elim

private theorem afterInteger?_of_not_isNumeric {head : Char} {tail : Text} {piece : Piece}
    (stands : Stands mode head tail piece) (plain : isNumeric head = false) (offset : Nat) :
    afterInteger? (offset, piece) = none := by
  cases piece with
  | gap | marker | fault => rfl
  | lexeme kind text place width =>
    refine if_neg fun integer => ?_
    rw [isNumeric_of_kind stands integer] at plain
    cases plain

private theorem lt_of_mem_afterIntegers {offset k : Nat} {text : Text}
    (member : k ∈ afterIntegers (ofText mode offset text)) : offset < k := by
  induction offset, text using induction mode with
  | nil offset => simp [afterIntegers] at member
  | step offset head tail piece width stands goes ih =>
    rw [ofText_of_width stands goes, afterIntegers_cons, List.mem_append] at member
    rcases member with here | later
    · cases numeric : isNumeric head with
      | false => simp [afterInteger?_of_not_isNumeric stands numeric] at here
      | true =>
        obtain ⟨digits, rest, -, -, rfl⟩ := stands.exists_digits numeric
        obtain rfl : k = offset + (digits.length + 1) := by simpa [afterInteger?] using here
        omega
    · have beyond := ih later
      omega
  | stop offset head tail piece stands ends =>
    rw [ofText_of_end stands ends] at member
    cases piece with
    | gap | lexeme => cases ends
    | marker | fault => simp [afterIntegers, afterInteger?] at member

/-- The marked offsets in a text are those right after its integers. -/
def Marks (mode : Mode) (marked : Nat → Bool) (offset : Nat) (text : Text) : Prop :=
  ∀ k, offset ≤ k → k < offset + text.length →
    (marked k = true ↔ k ∈ afterIntegers (ofText mode offset text))

namespace Marks

variable {marked : Nat → Bool} {offset width : Nat} {head : Char} {text tail : Text} {piece : Piece}

theorem unmarked_start (marks : Marks mode marked offset text) (some_char : text ≠ []) :
    marked offset = false := by
  have inside := List.length_pos_of_ne_nil some_char
  rw [Bool.eq_false_iff, Ne, marks offset (Nat.le_refl _) (by omega)]
  exact fun member => Nat.lt_irrefl _ (lt_of_mem_afterIntegers member)

theorem rest (skips : mode.skipAfterInteger = true)
    (marks : Marks mode marked offset (head :: tail)) (stands : Stands mode head tail piece)
    (goes : piece.width? = some width) :
    Marks mode marked (offset + width + 1) (tail.drop width) := by
  intro k above below
  have inside := stands.width_le goes
  rw [List.length_drop] at below
  rw [marks k (by omega) (by rw [List.length_cons]; omega), ofText_of_width stands goes,
    afterIntegers_cons, List.mem_append, or_iff_right]
  intro here
  cases numeric : isNumeric head with
  | false => simp [afterInteger?_of_not_isNumeric stands numeric] at here
  | true =>
    -- The offset right after the integer is passed over with it, unless the text ends there.
    obtain ⟨digits, rest, rfl, -, rfl⟩ := stands.exists_digits numeric
    obtain rfl : k = offset + (digits.length + 1) := by simpa [afterInteger?] using here
    simp only [Piece.width?, Option.some.injEq] at goes
    cases rest with
    | nil => simp at goes below; omega
    | cons c rest => simp [skips] at goes; omega

private theorem unmarked (marks : Marks mode marked offset (head :: tail))
    (stands : Stands mode head tail piece) (goes : piece.width? = some width) {k : Nat}
    (above : offset ≤ k) (below : k < offset + (width + 1))
    (other : afterInteger? (offset, piece) ≠ some k) : marked k = false := by
  have inside := stands.width_le goes
  rw [Bool.eq_false_iff, Ne, marks k above (by rw [List.length_cons]; omega),
    ofText_of_width stands goes, afterIntegers_cons, List.mem_append]
  rintro (here | later)
  · exact other (by simpa using here)
  · have beyond := lt_of_mem_afterIntegers later
    omega

theorem blankAt_of_plain (marks : Marks mode marked offset (head :: tail))
    (stands : Stands mode head tail piece) (goes : piece.width? = some width)
    (plain : isNumeric head = false) :
    Text.blankAt marked offset (head :: tail) = head :: (tail.take width ++
      Text.blankAt marked (offset + width + 1) (tail.drop width)) := by
  have length : (head :: tail.take width).length = width + 1 := by
    rw [List.length_cons, List.length_take_of_le (stands.width_le goes)]
  have kept : Text.blankAt marked offset (head :: tail.take width) = head :: tail.take width := by
    refine Text.blankAt_eq_self fun k above below => marks.unmarked stands goes above ?_ ?_
    · rwa [length] at below
    · simp [afterInteger?_of_not_isNumeric stands plain]
  have cut : head :: tail = (head :: tail.take width) ++ tail.drop width := by
    rw [List.cons_append, List.take_append_drop]
  rw [cut, Text.blankAt_append, kept, length, List.cons_append, Nat.add_assoc]

theorem blankAt_digits {digits text : Text} (marks : Marks mode marked offset (head :: tail))
    (stands : Stands mode head tail (.lexeme .intLiteral text (digits.length + 1) width))
    (covered : digits.length ≤ width) :
    Text.blankAt marked offset (head :: digits) = head :: digits := by
  refine Text.blankAt_eq_self fun k above below => ?_
  rw [List.length_cons] at below
  refine marks.unmarked stands rfl above (by omega) ?_
  simp only [afterInteger?, if_true, ne_eq, Option.some.injEq]
  omega

theorem blankAt_of_integer {digits rest : Text} {swallowed : Char}
    (skips : mode.skipAfterInteger = true) (numeric : isNumeric head = true)
    (cut : IsRun isNumeric digits (swallowed :: rest))
    (marks : Marks mode marked offset (head :: (digits ++ swallowed :: rest))) :
    ∃ blank, isWhitespace blank = true ∧
      Text.blankAt marked offset (head :: (digits ++ swallowed :: rest)) =
        head :: (digits ++
          blank :: Text.blankAt marked (offset + (digits.length + 1) + 1) rest) := by
  have stands : Stands mode head (digits ++ swallowed :: rest) _ := .integerSkip numeric cut skips
  have length : (head :: digits).length = digits.length + 1 := List.length_cons
  have kept := marks.blankAt_digits stands (Nat.le_succ digits.length)
  have here : marked (offset + (digits.length + 1)) = true := by
    rw [marks _ (by omega) (by simp), ofText_of_width stands rfl, afterIntegers_cons]
    simp [afterInteger?]
  refine ⟨if swallowed != '\n' then ' ' else swallowed, ?_, ?_⟩
  · split
    · decide
    case isFalse line =>
      obtain rfl : swallowed = '\n' := by simpa using line
      decide
  · have cut_after : head :: (digits ++ swallowed :: rest) =
        (head :: digits) ++ swallowed :: rest := rfl
    rw [cut_after, Text.blankAt_append, kept, length, Text.blankAt, here, Bool.true_and,
      List.cons_append]

end Marks

section Agree

variable {marked : Nat → Bool} {offset width : Nat} {head : Char} {tail : Text} {piece : Piece}

private theorem agree_plain (crosses : second.markerCrossesLines = first.markerCrossesLines)
    (marks : Marks first marked offset (head :: tail)) (skips : first.skipAfterInteger = true)
    (stands : Stands first head tail piece) (goes : piece.width? = some width)
    (plain : isNumeric head = false)
    (later : Agree source file
      (ofText second (offset + width + 1)
        (Text.blankAt marked (offset + width + 1) (tail.drop width)))
      (ofText first (offset + width + 1) (tail.drop width))) :
    Agree source file (ofText second offset (Text.blankAt marked offset (head :: tail)))
      (ofText first offset (head :: tail)) := by
  have length := List.length_take_of_le (stands.width_le goes)
  have kept := Text.head?_blankAt (marks.rest skips stands goes).unmarked_start
  have again : Stands second head (tail.take width ++
      Text.blankAt marked (offset + width + 1) (tail.drop width)) piece := by
    rw [← List.take_append_drop width tail] at stands
    exact (stands.of_head?_eq goes length kept).of_mode (by simp [plain]) fun _ => crosses
  rw [marks.blankAt_of_plain stands goes plain, ofText_of_width again goes,
    List.drop_left' length, ofText_of_width stands goes, Agree, tokens_cons, tokens_cons,
    status_cons_of_width goes, status_cons_of_width goes, later.1, later.2]
  exact ⟨rfl, rfl⟩

private theorem agree_integer_end (numeric : isNumeric head = true) (cut : IsRun isNumeric tail [])
    (marks : Marks first marked offset (head :: tail)) :
    Agree source file (ofText second offset (Text.blankAt marked offset (head :: tail)))
      (ofText first offset (head :: tail)) := by
  have at_end : ∀ mode, Stands mode head tail
      (.lexeme .intLiteral (head :: tail) (tail.length + 1) tail.length) := by
    intro mode
    have stands : Stands mode head (tail ++ []) _ := .integer numeric cut fun _ => rfl
    rwa [List.append_nil] at stands
  have unmarked := marks.blankAt_digits (at_end first) (Nat.le_refl tail.length)
  rw [unmarked, ofText_of_width (at_end first) rfl, ofText_of_width (at_end second) rfl,
    List.drop_length, ofText_nil, ofText_nil]
  exact ⟨rfl, rfl⟩

private theorem agree_integer {digits rest : Text} {swallowed : Char}
    (skips : first.skipAfterInteger = true) (keeps : second.skipAfterInteger = false)
    (numeric : isNumeric head = true) (cut : IsRun isNumeric digits (swallowed :: rest))
    (marks : Marks first marked offset (head :: (digits ++ swallowed :: rest)))
    (later : Agree source file
      (ofText second (offset + (digits.length + 1) + 1)
        (Text.blankAt marked (offset + (digits.length + 1) + 1) rest))
      (ofText first (offset + (digits.length + 1) + 1) rest)) :
    Agree source file
      (ofText second offset (Text.blankAt marked offset (head :: (digits ++ swallowed :: rest))))
      (ofText first offset (head :: (digits ++ swallowed :: rest))) := by
  obtain ⟨blank, white, blanked⟩ := marks.blankAt_of_integer skips numeric cut
  have passed : Stands first head (digits ++ swallowed :: rest) _ :=
    .integerSkip numeric cut skips
  have stopped : ∀ more : Text, IsRun isNumeric digits (blank :: more) := fun more =>
    ⟨cut.holds, by simpa using Unicode.isNumeric_eq_false_of_isWhitespace white⟩
  have again : ∀ more : Text, Stands second head (digits ++ blank :: more) _ := fun more =>
    .integer numeric (stopped more) (by simp [keeps])
  have place : offset + digits.length + 1 + 0 + 1 = offset + (digits.length + 1) + 1 := by omega
  have dropped : (digits ++ swallowed :: rest).drop (digits.length + 1) = rest := by simp
  rw [blanked, ofText_of_width (again _) rfl, List.drop_left, ofText_of_width (.blank white) rfl,
    List.drop_zero, place, ofText_of_width passed rfl, dropped, Agree, tokens_cons, tokens_cons,
    tokens_cons, status_cons_of_width rfl, status_cons_of_width rfl, status_cons_of_width rfl,
    later.1, later.2]
  exact ⟨rfl, rfl⟩

private theorem agree_end (crosses : second.markerCrossesLines = first.markerCrossesLines)
    (stands : Stands first head tail piece) (ends : piece.width? = none)
    (marks : Marks first marked offset (head :: tail)) :
    Agree source file (ofText second offset (Text.blankAt marked offset (head :: tail)))
      (ofText first offset (head :: tail)) := by
  have unmarked : ∀ k, offset ≤ k → k < offset + (head :: tail).length → marked k = false := by
    intro k above below
    rw [Bool.eq_false_iff, Ne, marks k above below, ofText_of_end stands ends]
    cases piece with
    | gap | lexeme => cases ends
    | marker | fault => simp [afterIntegers, afterInteger?]
  have plain : isNumeric head = false := by
    rw [Bool.eq_false_iff]
    intro numeric
    obtain ⟨digits, rest, -, -, rfl⟩ := stands.exists_digits numeric
    cases ends
  have again : Stands second head tail piece := stands.of_mode (by simp [plain]) fun _ => crosses
  rw [Text.blankAt_eq_self unmarked, ofText_of_end stands ends, ofText_of_end again ends]
  exact ⟨rfl, rfl⟩

end Agree

theorem agree_blankAt (skips : first.skipAfterInteger = true)
    (keeps : second.skipAfterInteger = false)
    (crosses : second.markerCrossesLines = first.markerCrossesLines) {marked : Nat → Bool}
    {offset : Nat} {text : Text} (marks : Marks first marked offset text) :
    Agree source file (ofText second offset (text.blankAt marked offset))
      (ofText first offset text) := by
  induction offset, text using induction first with
  | nil offset =>
    rw [Text.blankAt, ofText_nil, ofText_nil]
    exact ⟨rfl, rfl⟩
  | step offset head tail piece width stands goes ih =>
    have later := ih (marks.rest skips stands goes)
    -- Only after an integer do the two readings part, and they meet again one character later.
    cases numeric : isNumeric head with
    | false => exact agree_plain crosses marks skips stands goes numeric later
    | true =>
      obtain ⟨digits, rest, rfl, cut, rfl⟩ := stands.exists_digits numeric
      cases rest with
      | nil =>
        rw [List.append_nil] at marks ⊢
        exact agree_integer_end numeric cut marks
      | cons swallowed rest =>
        obtain rfl : digits.length + 1 = width := by simpa [Piece.width?, skips] using goes
        have dropped : (digits ++ swallowed :: rest).drop (digits.length + 1) = rest := by simp
        rw [dropped] at later
        exact agree_integer skips keeps numeric cut marks later
  | stop offset head tail piece stands ends => exact agree_end crosses stands ends marks

theorem mem_afterIntegers_iff (file : Option Text) {k : Nat} (inside : k ≤ source.length) :
    k ∈ afterIntegers (ofSource mode source) ↔
      ∃ token ∈ tokens source file (ofSource mode source), token.kind = .intLiteral ∧
        token.location = .ofOffset source k file := by
  simp only [afterIntegers, tokens, List.mem_filterMap]
  constructor
  · rintro ⟨⟨offset, piece⟩, member, here⟩
    cases piece with
    | gap | marker | fault => cases here
    | lexeme kind text place width =>
      obtain ⟨rfl, rfl⟩ : kind = .intLiteral ∧ offset + place = k := by
        simpa [afterInteger?] using here
      exact ⟨_, ⟨_, member, rfl⟩, rfl, rfl⟩
  · rintro ⟨token, ⟨⟨offset, piece⟩, member, found⟩, integer, there⟩
    cases piece with
    | gap | fault => cases found
    | lexeme kind text place width =>
      obtain rfl := Option.some.inj found
      obtain rfl : kind = .intLiteral := integer
      have bound := place_le_of_mem_ofText member rfl
      have same : offset + place = k :=
        (Location.ofOffset_inj (by omega) inside).mp there
      exact ⟨_, member, by simp [afterInteger?, same]⟩
    | marker kind text place =>
      obtain rfl := Option.some.inj found
      obtain rfl : kind = .intLiteral := integer
      obtain ⟨-, head, tail, -, -, stands⟩ := exists_cut_of_mem member
      cases stands.isMarker.isEndOfLine

end Reading

namespace Lexer

/-- The source with a space in place of every character right after an integer that a lexer finds
in it, line breaks apart. -/
def blankAfterIntegers (source : Text) (file : Option Text) (settings : Settings) : Text :=
  source.blankAt (fun offset => (lex source file settings).found.any fun token =>
    token.kind = .intLiteral ∧ token.location = .ofOffset source offset file) 0

private theorem marks_found (source : Text) (file : Option Text) (settings : Settings) :
    Reading.Marks settings.mode (fun offset => (lex source file settings).found.any fun token =>
      token.kind = .intLiteral ∧ token.location = .ofOffset source offset file) 0 source := by
  intro k _ below
  have inside : k ≤ source.length := by omega
  change _ ↔ k ∈ Reading.afterIntegers (Reading.ofSource settings.mode source)
  rw [Reading.mem_afterIntegers_iff file inside, found_lex, List.any_eq_true]
  simp only [decide_eq_true_eq]

/-- A lexer that passes over the characters after integers answers as one that does not would if
these characters were blank. -/
theorem lex_blankAfterIntegers {skips keeps : Datum} (skipping : skips.isTruthy = true)
    (keeping : keeps.isTruthy = false) (crosses : Datum) (source : Text) (file : Option Text) :
    (lex (blankAfterIntegers source file ⟨skips, crosses⟩) file ⟨keeps, crosses⟩).outcome =
      (lex source file ⟨skips, crosses⟩).outcome := by
  have passes : (Settings.mode ⟨skips, crosses⟩).skipAfterInteger = true := skipping
  have stops : (Settings.mode ⟨keeps, crosses⟩).skipAfterInteger = false := keeping
  have alike : (Settings.mode ⟨keeps, crosses⟩).markerCrossesLines =
      (Settings.mode ⟨skips, crosses⟩).markerCrossesLines := rfl
  have agree : Reading.Agree source file
      (Reading.ofSource (Settings.mode ⟨keeps, crosses⟩)
        (blankAfterIntegers source file ⟨skips, crosses⟩))
      (Reading.ofSource (Settings.mode ⟨skips, crosses⟩) source) :=
    Reading.agree_blankAt passes stops alike (marks_found source file ⟨skips, crosses⟩)
  have same : (blankAfterIntegers source file ⟨skips, crosses⟩).breaks = source.breaks :=
    Text.breaks_blankAt 0 source
  rw [outcome_lex, outcome_lex, Reading.outcome_of_breaks same]
  exact Reading.outcome_of_agree agree

end Lexer

end

theorem Lexer.lex_blankAfterIntegers_quote :
    Datum.isTruthy (.int 2) = true ∧ Datum.isTruthy .null = false ∧
      blankAfterIntegers "1\"x 2\n!".toList none ⟨.int 2, .bool true⟩ = "1 x 2\n!".toList ∧
      (lex "1 x 2\n!".toList none ⟨.null, .bool true⟩).outcome =
        (lex "1\"x 2\n!".toList none ⟨.int 2, .bool true⟩).outcome :=
  have blanked : blankAfterIntegers "1\"x 2\n!".toList none ⟨.int 2, .bool true⟩ =
      "1 x 2\n!".toList := by decide +kernel
  ⟨rfl, rfl, blanked, blanked ▸ lex_blankAfterIntegers rfl rfl (.bool true) "1\"x 2\n!".toList none⟩

end LineMark
