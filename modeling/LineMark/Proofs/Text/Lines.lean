import LineMark.Text.Basic
import LineMark.Unicode.Database

/-!
Texts cut into lines. There are more line breaks than the line feed; none of them is printable, and
none is a letter or a number. Lines without any of them, each followed by a line feed, are found
again in the text that they make.
-/

set_option autoImplicit false
set_option relaxedAutoImplicit false

namespace LineMark.Text

def lineBreaks : Text :=
  ['\n', '\r', '\x0b', '\x0c', '\x1c', '\x1d', '\x1e', '\u0085', '\u2028', '\u2029']

def isLineBreak (c : Char) : Bool :=
  lineBreaks.contains c

/-- The lines of a text, without their breaks. A carriage return and a line feed after it are one
break, and after a break at the end of the text there is no further line. -/
def lines : Text → List Text
  | [] => []
  | '\r' :: '\n' :: rest => [] :: lines rest
  | c :: rest =>
    if isLineBreak c then [] :: lines rest
    else
      match lines rest with
      | [] => [[c]]
      | line :: others => (c :: line) :: others

private theorem lineBreak_cases {c : Char} (ends : isLineBreak c = true) :
    (c.toNat < 0x20 ∧ c.isAlphanum = false) ∨
      Unicode.isWhitespace c = true ∧
        Unicode.Category.ofWhiteSpace c ∈ Unicode.Category.unprintable := by
  have all : lineBreaks.all (fun c => (c.toNat < 0x20 ∧ c.isAlphanum = false) ∨
      Unicode.isWhitespace c = true ∧
        Unicode.Category.ofWhiteSpace c ∈ Unicode.Category.unprintable) = true := by
    decide +kernel
  exact of_decide_eq_true (List.all_eq_true.mp all c (List.contains_iff_mem.mp ends))

theorem isUnprintable_of_isLineBreak [Unicode.Database] {c : Char} (ends : isLineBreak c = true) :
    Unicode.isUnprintable c = true := by
  rcases lineBreak_cases ends with ⟨control, -⟩ | ⟨blank, hidden⟩
  · rw [Unicode.isUnprintable_of_ascii (by omega)]
    exact decide_eq_true (Or.inl control)
  · rw [Unicode.isUnprintable, Unicode.Database.category_of_whiteSpace c blank]
    exact List.contains_iff_mem.mpr hidden

theorem isAlphanumeric_of_isLineBreak [Unicode.Database] {c : Char} (ends : isLineBreak c = true) :
    Unicode.isAlphanumeric c = false := by
  rcases lineBreak_cases ends with ⟨control, plain⟩ | ⟨blank, -⟩
  · rw [Unicode.isAlphanumeric_of_ascii (by omega), plain]
  · rw [Unicode.isAlphanumeric, Unicode.isAlphabetic_eq_false_of_isWhitespace blank,
      Unicode.isNumeric_eq_false_of_isWhitespace blank, Bool.or_false]

def IsLine (text : Text) : Prop :=
  ∀ c ∈ text, isLineBreak c = false

theorem isLine_of_forall {text : Text} {inside : Char → Prop} (all : ∀ c ∈ text, inside c)
    (apart : ∀ c, isLineBreak c = true → ¬inside c) : IsLine text := by
  intro c member
  exact Bool.eq_false_iff.mpr fun ends => apart c ends (all c member)

theorem lines_line {line : Text} (whole : IsLine line) (rest : Text) :
    lines (line ++ '\n' :: rest) = line :: lines rest := by
  induction line with
  | nil => rfl
  | cons c line ih =>
    have inside : isLineBreak c = false := whole c (by simp)
    have no_return : c ≠ '\r' := by
      rintro rfl
      exact absurd inside (by decide)
    have others := ih fun d member => whole d (by simp [member])
    rw [List.cons_append, lines, inside, others]
    · rfl
    · exact fun _ same => absurd same no_return

theorem lines_flatMap {texts : List Text} (whole : ∀ text ∈ texts, IsLine text) :
    lines (texts.flatMap (· ++ ['\n'])) = texts := by
  induction texts with
  | nil => rfl
  | cons text texts ih =>
    have others := ih fun other member => whole other (by simp [member])
    rw [List.flatMap_cons, List.append_assoc, List.singleton_append,
      lines_line (whole text (by simp)), others]

theorem count_flatMap {texts : List Text} (whole : ∀ text ∈ texts, IsLine text) :
    (texts.flatMap (· ++ ['\n'])).count '\n' = texts.length := by
  induction texts with
  | nil => rfl
  | cons text texts ih =>
    have others := ih fun other member => whole other (by simp [member])
    have none_inside : text.count '\n' = 0 := by
      refine List.count_eq_zero.mpr fun member => ?_
      have inside := whole text (by simp) '\n' member
      exact absurd inside (by decide)
    rw [List.flatMap_cons, List.count_append, List.count_append, none_inside, others,
      List.count_singleton_self, List.length_cons, Nat.zero_add, Nat.add_comm]

theorem eq_of_mem_flatMap {texts : List Text} (whole : ∀ text ∈ texts, IsLine text) {c : Char}
    (member : c ∈ texts.flatMap (· ++ ['\n'])) (ends : isLineBreak c = true) : c = '\n' := by
  obtain ⟨text, listed, written⟩ := List.mem_flatMap.mp member
  rcases List.mem_append.mp written with inside | after
  · rw [whole text listed c inside] at ends
    cases ends
  · exact List.mem_singleton.mp after

end LineMark.Text
