import LineMark.Proofs.Location

/-!
Offsets recovered from places. The further on in a source, the later the place, and the offset is
the start of the line of that number and as many characters more as the column tells
(`ofOffset_pins_offset`).
-/

set_option autoImplicit false
set_option relaxedAutoImplicit false

namespace LineMark

namespace Text

/-- The offset at which a line begins: the length of so many lines, each with the line break that
ends it. -/
def lineStart (text : Text) (line : Nat) : Nat :=
  (((text.splitOn '\n').take line).flatMap (· ++ ['\n'])).length

/-- The offset comes so many characters after the start of one of the lines of a text, and no
further than to the end of that line. Lines are numbered from zero. -/
structure LiesIn (text : Text) (offset line column : Nat) : Prop where
  within : ∃ content, (text.splitOn '\n')[line]? = some content ∧ column ≤ content.length
  offset_eq : offset = lineStart text line + column

private theorem splitOn_newline_cons (rest : Text) :
    ('\n' :: rest).splitOn '\n' = [] :: rest.splitOn '\n' := by
  rw [List.splitOn_cons_eq_if_modifyHead, if_pos (beq_self_eq_true _)]

private theorem exists_splitOn_cons {c : Char} (whole : c ≠ '\n') (rest : Text) :
    ∃ first others, rest.splitOn '\n' = first :: others ∧
      (c :: rest).splitOn '\n' = (c :: first) :: others := by
  obtain ⟨first, others, lines⟩ := List.exists_cons_of_ne_nil (List.splitOn_ne_nil '\n' rest)
  refine ⟨first, others, lines, ?_⟩
  rw [List.splitOn_cons_eq_if_modifyHead, if_neg (by simpa using whole), lines,
    List.modifyHead_cons]

namespace LiesIn

variable {rest : Text} {c : Char} {offset line column : Nat}

theorem start (text : Text) : text.LiesIn 0 0 0 := by
  obtain ⟨first, others, lines⟩ := List.exists_cons_of_ne_nil (List.splitOn_ne_nil '\n' text)
  refine ⟨⟨first, ?_, Nat.zero_le _⟩, ?_⟩
  · rw [lines, List.getElem?_cons_zero]
  · rw [lineStart, List.take_zero, List.flatMap_nil, List.length_nil]

theorem newline_cons (lies : rest.LiesIn offset line column) :
    LiesIn ('\n' :: rest) (offset + 1) (line + 1) column where
  within := by
    rw [splitOn_newline_cons, List.getElem?_cons_succ]
    exact lies.within
  offset_eq := by
    have place := lies.offset_eq
    rw [lineStart] at place ⊢
    rw [splitOn_newline_cons, List.take_succ_cons, List.flatMap_cons, List.length_append,
      List.nil_append, List.length_singleton]
    omega

theorem cons_first (lies : rest.LiesIn offset 0 column) (whole : c ≠ '\n') :
    LiesIn (c :: rest) (offset + 1) 0 (column + 1) := by
  obtain ⟨⟨content, found, inside⟩, place⟩ := lies
  obtain ⟨first, others, lines, longer⟩ := exists_splitOn_cons whole rest
  rw [lines, List.getElem?_cons_zero] at found
  obtain rfl := Option.some.inj found
  refine ⟨⟨c :: first, ?_, Nat.succ_le_succ inside⟩, ?_⟩
  · rw [longer, List.getElem?_cons_zero]
  · rw [lineStart, List.take_zero] at place ⊢
    omega

theorem cons_later (lies : rest.LiesIn offset (line + 1) column) (whole : c ≠ '\n') :
    LiesIn (c :: rest) (offset + 1) (line + 1) column := by
  obtain ⟨within, place⟩ := lies
  obtain ⟨first, others, lines, longer⟩ := exists_splitOn_cons whole rest
  constructor
  · rw [longer, List.getElem?_cons_succ]
    rwa [lines, List.getElem?_cons_succ] at within
  · rw [lineStart, lines] at place
    rw [lineStart, longer]
    simp only [List.take_succ_cons, List.flatMap_cons, List.length_append, List.length_cons]
      at place ⊢
    omega

end LiesIn

end Text

namespace Location

private theorem behind_newline (line column : Int) (file : Option Text) :
    behind ['\n'] ⟨line, column, file⟩ = ⟨line + 1, column, file⟩ := by
  have nothing : (lastLine ['\n']).length = 0 := rfl
  simp only [behind, mk.injEq, nothing, List.count_singleton_self, and_true]
  constructor
  · omega
  · split <;> omega

private theorem behind_singleton {c : Char} (whole : c ≠ '\n') (line column : Int)
    (file : Option Text) :
    behind [c] ⟨line, column, file⟩ =
      ⟨line, if line = 1 then column + 1 else column, file⟩ := by
  have single : (lastLine [c]).length = 1 := by simp [lastLine, whole]
  have none_broken : [c].count '\n' = 0 := by simp [whole]
  simp only [behind, mk.injEq, single, none_broken, and_true]
  constructor
  · omega
  · split <;> omega

theorem exists_liesIn {source : Text} {offset : Nat} (inside : offset ≤ source.length)
    (file : Option Text) :
    ∃ line column : Nat, ofOffset source offset file = ⟨line + 1, column + 1, file⟩ ∧
      source.LiesIn offset line column := by
  induction source generalizing offset with
  | nil =>
    obtain rfl := Nat.le_zero.mp inside
    exact ⟨0, 0, rfl, .start []⟩
  | cons c rest ih =>
    cases offset with
    | zero => exact ⟨0, 0, rfl, .start (c :: rest)⟩
    | succ offset =>
      obtain ⟨line, column, place, lies⟩ := ih (Nat.le_of_succ_le_succ inside)
      -- A character before a source moves its places as it moves what lies in its lines.
      have later : ofOffset (c :: rest) (offset + 1 : Nat) file =
          behind [c] ⟨line + 1, column + 1, file⟩ := by
        rw [← place, ← ofOffset_add, Nat.add_comm]
        rfl
      by_cases broken : c = '\n'
      · subst broken
        refine ⟨line + 1, column, ?_, lies.newline_cons⟩
        rw [later, behind_newline]
        rfl
      · rw [later, behind_singleton broken]
        cases line with
        | zero => exact ⟨0, column + 1, rfl, lies.cons_first broken⟩
        | succ line =>
          have below : ((line + 1 : Nat) : Int) + 1 ≠ 1 := by omega
          refine ⟨line + 1, column, ?_, lies.cons_later broken⟩
          rw [if_neg below]

/-- The places of a source are in the order of its offsets, no two of them on one line and column,
and each tells its offset: it lies in the line of that number, as many characters after its start as
there are columns before. Text after the source changes none of them. -/
theorem ofOffset_pins_offset (source : Text) (file : Option Text) :
    (∀ first second : Nat, first < second → second ≤ source.length →
      (ofOffset source first file).position < (ofOffset source second file).position) ∧
    (∀ first second : Nat, first ≤ source.length → second ≤ source.length → first ≠ second →
      (ofOffset source first file).position ≠ (ofOffset source second file).position) ∧
    (∀ offset : Nat, offset ≤ source.length → ∃ (line column : Nat) (content : Text),
      ofOffset source offset file = ⟨line + 1, column + 1, file⟩ ∧
      (source.splitOn '\n')[line]? = some content ∧ column ≤ content.length ∧
      offset = source.lineStart line + column) ∧
    ∀ (offset : Nat) (more : Text), offset ≤ source.length →
      ofOffset (source ++ more) offset file = ofOffset source offset file := by
  refine ⟨?_, ?_, ?_, ?_⟩
  · intro first second before inside
    exact position_lt_position before inside file
  · intro first second first_inside second_inside apart same
    exact apart ((position_inj first_inside second_inside).mp same)
  · intro offset inside
    obtain ⟨line, column, place, ⟨content, found, within⟩, reached⟩ := exists_liesIn inside file
    exact ⟨line, column, content, place, found, within, reached⟩
  · intro offset more inside
    exact ofOffset_append inside more file

theorem ofOffset_pins_offset_empty_line :
    2 < 3 ∧ 2 ≤ "a\n\nb".toList.length ∧ 3 ≤ "a\n\nb".toList.length ∧ 2 ≠ 3 ∧
      (ofOffset "a\n\nb".toList 2 none).position < (ofOffset "a\n\nb".toList 3 none).position ∧
      (ofOffset "a\n\nb".toList 2 none).position ≠ (ofOffset "a\n\nb".toList 3 none).position ∧
      (∃ content, ("a\n\nb".toList.splitOn '\n')[1]? = some content ∧ 0 ≤ content.length ∧
        2 = Text.lineStart "a\n\nb".toList 1 + 0) ∧
      ofOffset ("a\n\nb".toList ++ "\n".toList) 2 none = ofOffset "a\n\nb".toList 2 none := by
  obtain ⟨ordered, apart, lies, append⟩ := ofOffset_pins_offset "a\n\nb".toList none
  refine ⟨by decide, by decide, by decide, by decide, ordered 2 3 (by decide) (by decide),
    apart 2 3 (by decide) (by decide) (by decide), ?_, append 2 _ (by decide)⟩
  obtain ⟨line, column, content, place, found, within, reached⟩ := lies 2 (by decide)
  have computed : ofOffset "a\n\nb".toList 2 none = ⟨2, 1, none⟩ := by decide
  obtain ⟨lines, columns, -⟩ := Location.mk.inj (place.symm.trans computed)
  obtain rfl : line = 1 := by omega
  obtain rfl : column = 0 := by omega
  exact ⟨content, found, within, reached⟩

end Location

end LineMark
