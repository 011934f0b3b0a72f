import LineMark.Proofs.Location
import Mathlib.Data.List.Induction

/-!
Places by counting and by walking. The place of an offset is told by the number of line breaks
before it and by the index of the last of them, and it is where a walk over the characters before
the offset ends (`ofOffset_eq_walk`).
-/

set_option autoImplicit false
set_option relaxedAutoImplicit false

namespace LineMark

namespace Text

/-- The index of the last line break of a text, or minus one where the text has none. -/
def IsLastBreak (text : Text) (index : Int) : Prop :=
  (index = -1 ∧ '\n' ∉ text) ∨
    ∃ earlier later, text = earlier ++ '\n' :: later ∧ '\n' ∉ later ∧ index = earlier.length

theorem IsLastBreak.append {text more : Text} {index : Int} (last : text.IsLastBreak index)
    (one_line : '\n' ∉ more) : (text ++ more).IsLastBreak index := by
  rcases last with ⟨missing, absent⟩ | ⟨earlier, later, rfl, absent, place⟩
  · left
    refine ⟨missing, ?_⟩
    rw [List.mem_append, not_or]
    exact ⟨absent, one_line⟩
  · right
    refine ⟨earlier, later ++ more, by simp, ?_, place⟩
    rw [List.mem_append, not_or]
    exact ⟨absent, one_line⟩

theorem exists_upTo_eq_take (text : Text) (bound : Int) :
    ∃ count : Nat, (count : Int) =
        max 0 (min (if bound < 0 then bound + text.length else bound) text.length) ∧
      text.upTo bound = text.take count := by
  refine ⟨min (before text bound) text.length, ?_, ?_⟩
  · unfold before
    split <;> omega
  · rw [upTo, List.take_eq_take_iff]
    omega

end Text

namespace Location

private theorem lastLine_newline (text : Text) : lastLine (text ++ ['\n']) = [] :=
  lastLine_append_of_mem (List.mem_singleton.mpr rfl) text

private theorem notMem_singleton {c : Char} (whole : c ≠ '\n') : '\n' ∉ [c] := by
  intro member
  exact whole (List.mem_singleton.mp member).symm

theorem afterText_concat (text : Text) (c : Char) (file : Option Text) :
    afterText (text ++ [c]) file = (afterText text file).next c := by
  rw [next]
  by_cases broken : c = '\n'
  · subst broken
    rw [if_pos rfl]
    simp only [afterText, mk.injEq, List.count_append, List.count_singleton_self,
      lastLine_newline, List.length_nil, and_true]
    omega
  · rw [if_neg broken]
    have apart := notMem_singleton broken
    simp only [afterText, mk.injEq, List.count_append, List.count_eq_zero.mpr apart,
      lastLine_append apart, List.length_append, List.length_singleton, and_true]
    omega

theorem walk_eq_afterText (text : Text) (file : Option Text) :
    walk text file = afterText text file := by
  induction text using List.reverseRecOn with
  | nil => rfl
  | append_singleton text c ih =>
    have step : walk (text ++ [c]) file = (walk text file).next c := by
      simp only [walk, List.foldl_append, List.foldl_cons, List.foldl_nil]
    rw [step, ih, afterText_concat]

theorem isLastBreak_lastLine (text : Text) :
    text.IsLastBreak (text.length - (lastLine text).length - 1) := by
  -- By induction from the end, where a last line grows or begins anew.
  induction text using List.reverseRecOn with
  | nil => exact Or.inl ⟨rfl, List.not_mem_nil⟩
  | append_singleton text c ih =>
    by_cases broken : c = '\n'
    · subst broken
      refine Or.inr ⟨text, [], rfl, List.not_mem_nil, ?_⟩
      rw [lastLine_newline, List.length_append, List.length_singleton, List.length_nil]
      omega
    · have apart := notMem_singleton broken
      have same : ((text ++ [c]).length : Int) - (lastLine (text ++ [c])).length - 1 =
          text.length - (lastLine text).length - 1 := by
        rw [lastLine_append apart, List.length_append, List.length_append, List.length_singleton]
        omega
      rw [same]
      exact ih.append apart

/-- Any integer is an offset in a source, one below zero counting from its end and one too large or
too small standing for its end or its start. The place of the offset has the number of line breaks
before it and the distance to the last of them, it is where a walk over the characters before the
offset ends, and it has no line and no column before the first. -/
theorem ofOffset_eq_walk (source : Text) (offset : Int) (file : Option Text) :
    ∃ (count : Nat) (last : Int),
      (count : Int) =
        max 0 (min (if offset < 0 then offset + source.length else offset) source.length) ∧
      Text.IsLastBreak (source.take count) last ∧
      ofOffset source offset file = ⟨(source.take count).count '\n' + 1, count - last, file⟩ ∧
      ofOffset source offset file = walk (source.take count) file ∧
      1 ≤ (ofOffset source offset file).line ∧ 1 ≤ (ofOffset source offset file).column := by
  obtain ⟨count, resolved, cut⟩ := source.exists_upTo_eq_take offset
  have length : (source.take count).length = count := by
    apply List.length_take_of_le
    omega
  have place : ofOffset source offset file = afterText (source.take count) file := by
    rw [ofOffset, cut]
  have last := isLastBreak_lastLine (source.take count)
  rw [length] at last
  refine ⟨count, _, resolved, last, ?_, ?_, ?_, ?_⟩
  · rw [place]
    simp only [afterText, mk.injEq, true_and, and_true]
    omega
  · rw [place, walk_eq_afterText]
  · rw [place]
    show (1 : Int) ≤ _ + 1
    omega
  · rw [place]
    show (1 : Int) ≤ _ + 1
    omega

-- Counted from the end, on a line break and just after it.
example :
    ofOffset "ab\nc".toList (-2) none = ⟨1, 3, none⟩ ∧
      ofOffset "ab\nc".toList (-1) none = ⟨2, 1, none⟩ := by
  decide

end Location

end LineMark
