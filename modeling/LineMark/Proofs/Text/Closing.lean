import LineMark.Proofs.Text.Lines
import LineMark.Proofs.Text.Quoted
import LineMark.Unicode.Tables

/-!
Where quotations end. A quote is escaped if an odd number of backslashes stands right before it, and
so are all quotes inside a quotation: a reader that passes over whatever a backslash announces finds
the closing quote at the end of the quotation, and nowhere else.
-/

set_option autoImplicit false
set_option relaxedAutoImplicit false

namespace LineMark.CodeText

/-- How many backslashes stand at the end of a text. -/
def backslashes (text : CodeText) : Nat :=
  (text.reverse.takeWhile (· = .ofChar '\\')).length

/-- The distance to the next quote that no backslash announces. -/
def nextQuote? (text : CodeText) : Option Nat :=
  match text with
  | [] => none
  | first :: rest =>
    if first = '"' then some 0
    else if first = '\\' then (· + 2) <$> nextQuote? rest.tail
    else (· + 1) <$> nextQuote? rest
termination_by text.length
decreasing_by
  all_goals simp only [List.length_cons, List.length_tail]
  all_goals omega

/-- The offset of the quote that closes the quotation at the head of a text. -/
def closing? : CodeText → Option Nat
  | [] => none
  | first :: rest => if first = '"' then (· + 1) <$> nextQuote? rest else none

private theorem backslashes_backslash (text : CodeText) :
    backslashes (text ++ [.ofChar '\\']) = backslashes text + 1 := by
  simp [backslashes]

private theorem backslashes_of_ne {point : CodePoint} (other : point ≠ '\\') (text : CodeText) :
    backslashes (text ++ [point]) = 0 := by
  simp [backslashes, other]

private theorem ne_of_mem_braces {n : Nat} :
    ∀ sign ∈ .ofChar 'u' :: .ofChar '\x7b' :: ((Text.Numeral.hex n).toCodeText ++
      [.ofChar '\x7d']), sign ≠ .ofChar '"' ∧ sign ≠ .ofChar '\\' := by
  have digits : ∀ sign ∈ (Text.Numeral.hex n).toCodeText,
      sign ≠ .ofChar '"' ∧ sign ≠ .ofChar '\\' := by
    intro sign member
    obtain ⟨d, small, rfl⟩ := Text.exists_digit_of_mem_toCodeText_hex member
    have all : ∀ d < 16, CodePoint.ofChar (Nat.digitChar d) ≠ .ofChar '"' ∧
        CodePoint.ofChar (Nat.digitChar d) ≠ .ofChar '\\' := by decide
    exact all d small
  intro sign member
  simp only [List.mem_cons, List.mem_append, List.not_mem_nil, or_false] at member
  rcases member with rfl | rfl | digit | rfl
  · decide
  · decide
  · exact digits sign digit
  · decide

private theorem nextQuote?_plain {point : CodePoint} (mark : point ≠ '"') (backslash : point ≠ '\\')
    (rest : CodeText) : nextQuote? (point :: rest) = (· + 1) <$> nextQuote? rest := by
  rw [nextQuote?, if_neg mark, if_neg backslash]

private theorem nextQuote?_append {plain : CodeText}
    (free : ∀ sign ∈ plain, sign ≠ .ofChar '"' ∧ sign ≠ .ofChar '\\') (rest : CodeText) :
    nextQuote? (plain ++ rest) = (· + plain.length) <$> nextQuote? rest := by
  induction plain with
  | nil => simp
  | cons point plain ih =>
    obtain ⟨mark, backslash⟩ := free point (by simp)
    rw [List.cons_append, nextQuote?_plain mark backslash,
      ih fun sign member => free sign (by simp [member])]
    simp [Function.comp_def, Nat.add_assoc]

section

variable [Unicode.Database]

private theorem backslashes_escape {front : CodeText} (even : backslashes front % 2 = 0)
    (point : CodePoint) : backslashes (front ++ escape point) % 2 = 0 := by
  rcases escape_cases point with ⟨letter, -, form⟩ | form | ⟨-, other, -, form⟩
  · have split : front ++ escape point = front ++ [.ofChar '\\'] ++ [.ofChar letter] := by
      simp [form]
    rw [split]
    by_cases same : letter = '\\'
    · subst same
      rw [backslashes_backslash, backslashes_backslash]
      omega
    · rw [backslashes_of_ne fun equal => same (CodePoint.ofChar_inj.mp equal)]
  · have split : front ++ escape point = front ++ (.ofChar '\\' :: .ofChar 'u' :: .ofChar '\x7b' ::
        (Text.Numeral.hex point.value).toCodeText) ++ [.ofChar '\x7d'] := by simp [form]
    rw [split, backslashes_of_ne (by decide)]
  · rw [form, backslashes_of_ne other]

private theorem before_eq_of_escape {point : CodePoint} {before after : CodeText}
    (cut : escape point = before ++ .ofChar '"' :: after) : before = [.ofChar '\\'] := by
  rcases escape_cases point with ⟨letter, -, form⟩ | form | ⟨other, -, -, form⟩
  · rw [form] at cut
    match before with
    | [] => exact absurd (List.cons.inj cut).1 (by decide)
    | [first] =>
      obtain ⟨rfl, -⟩ := List.cons.inj cut
      rfl
    | _ :: _ :: more =>
      have length := congrArg List.length cut
      simp only [List.length_cons, List.length_append, List.length_nil] at length
      omega
  · have mark : CodePoint.ofChar '"' ∈ escape point := by simp [cut]
    rw [form] at mark
    rcases List.mem_cons.mp mark with impossible | inside
    · exact absurd impossible (by decide)
    · exact ((ne_of_mem_braces _ inside).1 rfl).elim
  · have mark : CodePoint.ofChar '"' ∈ escape point := by simp [cut]
    rw [form, List.mem_singleton] at mark
    exact (other mark.symm).elim

private theorem backslashes_flatMap {text front before after : CodeText}
    (even : backslashes front % 2 = 0)
    (cut : text.flatMap escape = before ++ .ofChar '"' :: after) :
    backslashes (front ++ before) % 2 = 1 := by
  induction text generalizing front before with
  | nil => simp at cut
  | cons point text ih =>
    rw [List.flatMap_cons] at cut
    -- The quote is beyond the form of the first code point, or it is in that form.
    rcases List.append_eq_append_iff.mp cut with ⟨more, rfl, rest⟩ | ⟨more, form, rest⟩
    · rw [← List.append_assoc]
      exact ih (backslashes_escape even point) rest
    · cases more with
      | nil =>
        rw [List.append_nil] at form
        have onward : backslashes (front ++ escape point ++ []) % 2 = 1 :=
          ih (backslashes_escape even point) rest.symm
        rwa [List.append_nil, form] at onward
      | cons mark more =>
        obtain ⟨rfl, -⟩ := List.cons.inj rest
        rw [before_eq_of_escape form, backslashes_backslash]
        omega

private theorem nextQuote?_escape (point : CodePoint) (rest : CodeText) :
    nextQuote? (escape point ++ rest) = (· + (escape point).length) <$> nextQuote? rest := by
  rcases escape_cases point with ⟨letter, -, form⟩ | form | ⟨mark, backslash, -, form⟩
  · rw [form, List.cons_append, nextQuote?, if_neg (by decide), if_pos rfl]
    rfl
  · have inside : ∀ sign ∈ .ofChar '\x7b' :: ((Text.Numeral.hex point.value).toCodeText ++
        [.ofChar '\x7d']), sign ≠ .ofChar '"' ∧ sign ≠ .ofChar '\\' :=
      fun sign member => ne_of_mem_braces sign (List.mem_cons_of_mem _ member)
    rw [form, List.cons_append, List.cons_append, nextQuote?, if_neg (by decide), if_pos rfl,
      List.tail_cons, nextQuote?_append inside]
    simp [Function.comp_def, Nat.add_assoc]
  · rw [form]
    exact nextQuote?_plain mark backslash rest

theorem closing?_quote (text rest : CodeText) :
    closing? (quote text ++ rest) = some ((quote text).length - 1) := by
  have inside : nextQuote? (text.flatMap escape ++ .ofChar '"' :: rest) =
      some (text.flatMap escape).length := by
    induction text with
    | nil => simp [nextQuote?]
    | cons point text ih =>
      rw [List.flatMap_cons, List.append_assoc, nextQuote?_escape, ih]
      simp [Nat.add_comm]
  have shape : quote text ++ rest =
      .ofChar '"' :: (text.flatMap escape ++ .ofChar '"' :: rest) := by
    simp [quote]
  rw [shape, closing?, if_pos rfl, inside]
  simp [quote]

theorem backslashes_of_inner {text before after : CodeText}
    (cut : quote text = before ++ .ofChar '"' :: after) (opened : before ≠ [])
    (goes_on : after ≠ []) : backslashes before % 2 = 1 := by
  obtain ⟨first, before, rfl⟩ := List.exists_cons_of_ne_nil opened
  obtain ⟨after, last, rfl⟩ := List.eq_nil_or_concat after |>.resolve_left goes_on
  have shape : .ofChar '"' :: (text.flatMap escape ++ [.ofChar '"']) =
      first :: (before ++ .ofChar '"' :: after ++ [last]) := by simpa [quote] using cut
  obtain ⟨rfl, inner⟩ := List.cons.inj shape
  have even : backslashes [.ofChar '"'] % 2 = 0 := rfl
  exact backslashes_flatMap even (List.append_inj_left' inner rfl)

/-- Quotations are uniquely decodable: each is read back as its text, be there surrogates in it or
not. A quotation keeps to one line, all its code points can be seen, and its last one is the only
quote after the first that no backslash announces. -/
theorem quote_uniquely_decodable :
    (∀ text, unquote (quote text) = some text) ∧ Function.Injective quote ∧
    (∀ text before after, quote text = before ++ .ofChar '"' :: after → before ≠ [] → after ≠ [] →
      backslashes before % 2 = 1) ∧
    (∀ text rest, closing? (quote text ++ rest) = some ((quote text).length - 1)) ∧
    ∀ text, ∀ point ∈ quote text,
      Unicode.Database.category point ∉ Unicode.Category.unprintable ∧
      point.isSurrogate = false ∧ ∀ c, Text.isLineBreak c = true → point ≠ .ofChar c := by
  refine ⟨unquote_quote, ?_, ?_, closing?_quote, ?_⟩
  · intro first second same
    exact quote_inj.mp same
  · intro text before after cut opened goes_on
    exact backslashes_of_inner cut opened goes_on
  · intro text point member
    have seen := isUnprintable_of_mem_quote member
    refine ⟨?_, isSurrogate_of_mem_quote member, ?_⟩
    · intro hidden
      rw [Unicode.isUnprintable, List.contains_iff_mem.mpr hidden] at seen
      cases seen
    · rintro c ends rfl
      rw [Text.isUnprintable_of_isLineBreak ends] at seen
      cases seen

end

/-- A text with a half of a pair, a NUL before a digit, and quotes among backslashes. -/
example :
    let half : CodePoint := ⟨0xD800, by decide⟩
    quote (half :: (Text.toCodeText "\x001\\\"".toList)) =
      Text.toCodeText "\"\\u\x7bd800\x7d\\01\\\\\\\"\"".toList := by
  decide +kernel

end LineMark.CodeText
