import LineMark.Location
import Mathlib.Data.Prod.Lex

/-!
Places and offsets. A place in a source is that place in every longer source, the places of a source
are in the order of its offsets, and text put before a source moves all its places alike. Of the
characters of a source only its line breaks bear on its places.
-/

set_option autoImplicit false
set_option relaxedAutoImplicit false

namespace LineMark

def Text.breaks (text : Text) : List Bool :=
  text.map (· == '\n')

namespace Location

theorem ofOffset_append {source : Text} {offset : Nat} (inside : offset ≤ source.length)
    (more : Text) (file : Option Text) :
    ofOffset (source ++ more) offset file = ofOffset source offset file := by
  simp only [ofOffset, Text.upTo, Text.before_natCast, List.take_append_of_le_length inside]

theorem lastLine_append {more : Text} (one_line : '\n' ∉ more) (text : Text) :
    lastLine (text ++ more) = lastLine text ++ more := by
  have plain : ∀ c ∈ more.reverse, decide (c ≠ '\n') = true := by
    intro c member
    simpa using ne_of_mem_of_not_mem (List.mem_reverse.mp member) one_line
  rw [lastLine, List.reverse_append, List.takeWhile_append_of_pos plain, List.reverse_append,
    List.reverse_reverse]
  rfl

def position (place : Location) : ℤ ×ₗ ℤ :=
  toLex (place.line, place.column)

theorem position_lt_iff {first second : Location} :
    first.position < second.position ↔
      first.line < second.line ∨ first.line = second.line ∧ first.column < second.column :=
  Prod.Lex.toLex_lt_toLex

private theorem position_lt_append (text : Text) {more : Text} (some_char : more ≠ [])
    (file : Option Text) :
    (afterText text file).position < (afterText (text ++ more) file).position := by
  rw [position_lt_iff]
  by_cases broken : '\n' ∈ more
  · left
    have positive := List.count_pos_iff.mpr broken
    simp only [afterText, List.count_append]
    omega
  · right
    have none_broken := List.count_eq_zero.mpr broken
    have longer := List.length_pos_iff.mpr some_char
    simp only [afterText, List.count_append, lastLine_append broken, List.length_append]
    omega

theorem position_lt_position {source : Text} {first second : Nat} (before : first < second)
    (inside : second ≤ source.length) (file : Option Text) :
    (ofOffset source first file).position < (ofOffset source second file).position := by
  obtain ⟨gap, rfl⟩ := Nat.exists_eq_add_of_lt before
  have some_char : (source.drop first).take (gap + 1) ≠ [] := by
    apply List.ne_nil_of_length_pos
    rw [List.length_take, List.length_drop]
    omega
  have later := position_lt_append (source.take first) some_char file
  rw [← List.take_add] at later
  simp only [ofOffset, Text.upTo, Text.before_natCast]
  exact later

theorem position_inj {source : Text} {first second : Nat} {file : Option Text}
    (first_inside : first ≤ source.length) (second_inside : second ≤ source.length) :
    (ofOffset source first file).position = (ofOffset source second file).position ↔
      first = second := by
  refine ⟨fun same => ?_, fun same => same ▸ rfl⟩
  rcases Nat.lt_trichotomy first second with before | equal | after
  · exact absurd same (position_lt_position before second_inside file).ne
  · exact equal
  · exact absurd same (position_lt_position after first_inside file).ne'

theorem ofOffset_inj {source : Text} {first second : Nat} {file : Option Text}
    (first_inside : first ≤ source.length) (second_inside : second ≤ source.length) :
    ofOffset source first file = ofOffset source second file ↔ first = second := by
  constructor
  · intro same
    exact (position_inj first_inside second_inside).mp (congrArg position same)
  · rintro rfl
    rfl

/-- The place that a place has when a text is put before its source: only those on the first line
move to the right. -/
def behind (text : Text) (place : Location) : Location where
  line := text.count '\n' + place.line
  column := if place.line = 1 then (lastLine text).length + place.column else place.column
  file := place.file

private theorem lastLine_of_notMem {text : Text} (one_line : '\n' ∉ text) : lastLine text = text :=
  lastLine_append one_line []

theorem lastLine_append_of_mem {more : Text} (broken : '\n' ∈ more) (text : Text) :
    lastLine (text ++ more) = lastLine more := by
  have stops : ¬(more.reverse.takeWhile (· ≠ '\n')).length = more.reverse.length := by
    intro whole
    have same := (List.takeWhile_prefix (· ≠ '\n')).eq_of_length whole
    have plain : ∀ c ∈ more.reverse, decide (c ≠ '\n') = true :=
      same ▸ List.all_eq_true.mp List.all_takeWhile
    simpa using plain '\n' (List.mem_reverse.mpr broken)
  rw [lastLine, List.reverse_append, List.takeWhile_append, if_neg stops]
  rfl

private theorem afterText_append (text more : Text) (file : Option Text) :
    afterText (text ++ more) file = (afterText more file).behind text := by
  by_cases broken : '\n' ∈ more
  · have later : (afterText more file).line ≠ 1 := by
      have positive := List.count_pos_iff.mpr broken
      simp only [afterText]
      omega
    rw [behind, if_neg later]
    simp only [afterText, mk.injEq, List.count_append, lastLine_append_of_mem broken, and_true]
    omega
  · have first : (afterText more file).line = 1 := by
      simp only [afterText, List.count_eq_zero.mpr broken]
      rfl
    rw [behind, if_pos first]
    simp only [afterText, mk.injEq, List.count_append, lastLine_append broken,
      lastLine_of_notMem broken, List.length_append, and_true]
    omega

theorem ofOffset_add (text source : Text) (offset : Nat) (file : Option Text) :
    ofOffset (text ++ source) (text.length + offset : Nat) file =
      (ofOffset source offset file).behind text := by
  simp only [ofOffset, Text.upTo, Text.before_natCast, List.take_length_add_append,
    afterText_append]

private theorem lastLine_length (text : Text) :
    (lastLine text).length = (text.breaks.reverse.takeWhile (! ·)).length := by
  simp only [lastLine, Text.breaks, List.length_reverse, ← List.map_reverse, List.takeWhile_map,
    List.length_map]
  congr 2
  funext c
  rw [Bool.eq_iff_iff]
  simp

private theorem count_breaks (text : Text) : text.count '\n' = text.breaks.count true := by
  simp only [Text.breaks, List.count, List.countP_map]
  congr 1
  funext c
  simp

theorem ofOffset_of_breaks {first second : Text} (same : first.breaks = second.breaks)
    (offset : Int) (file : Option Text) :
    ofOffset first offset file = ofOffset second offset file := by
  have length : first.length = second.length := by
    simpa [Text.breaks] using congrArg List.length same
  have cut : (first.upTo offset).breaks = (second.upTo offset).breaks := by
    simp only [Text.upTo, Text.before, length, Text.breaks, List.map_take]
    exact congrArg (List.take _) same
  simp only [ofOffset, afterText, count_breaks, lastLine_length, cut]

end Location

end LineMark
