import LineMark.Token.CharClass

/-!
What every character database leaves apart. No white space is numeric or alphabetic, and neither is
a character with a class of its own, so that the class of a character and its properties agree.
-/

set_option autoImplicit false
set_option relaxedAutoImplicit false

namespace LineMark.Unicode

variable [Database]

theorem isWhitespace_eq_false_of_isAlphanumeric {c : Char} (letter : isAlphanumeric c = true) :
    isWhitespace c = false := by
  cases blank : isWhitespace c with
  | false => rfl
  | true =>
    simp [isAlphanumeric, isNumeric_eq_false_of_isWhitespace blank,
      isAlphabetic_eq_false_of_isWhitespace blank] at letter

end LineMark.Unicode

namespace LineMark.Token.CharClass

open Unicode (isWhitespace isNumeric isAlphabetic isAlphanumeric)

theorem mem_symbols_of_lookup {c : Char} {cls : CharClass}
    (found : symbols.lookup c = some cls) : (c, cls) ∈ symbols := by
  obtain ⟨before, after, split, -⟩ := List.lookup_eq_some_iff.mp found
  simp [split]

variable [Unicode.Database]

theorem isAlphanumeric_eq_false_of_symbol {entry : Char × CharClass} (member : entry ∈ symbols) :
    isAlphanumeric entry.1 = false := by
  have all : ∀ entry ∈ symbols, entry.1.toNat < 0x80 ∧ entry.1.isAlphanum = false := by decide
  obtain ⟨ascii, plain⟩ := all entry member
  rw [Unicode.isAlphanumeric_of_ascii ascii, plain]

theorem lookup_symbols_of_isAlphanumeric {c : Char} (letter : isAlphanumeric c = true) :
    symbols.lookup c = none := by
  rw [List.lookup_eq_none_iff]
  intro entry member
  have plain := isAlphanumeric_eq_false_of_symbol member
  rw [bne_iff_ne]
  rintro rfl
  rw [letter] at plain
  cases plain

theorem ofChar_of_isNumeric {c : Char} (numeric : isNumeric c = true) : ofChar c = .digit := by
  have plain := lookup_symbols_of_isAlphanumeric (c := c) (by simp [isAlphanumeric, numeric])
  simp [ofChar, plain, numeric]

theorem ofChar_of_isAlphabetic {c : Char} (plain : isNumeric c = false)
    (letter : isAlphabetic c = true) : ofChar c = .letter := by
  have unlisted := lookup_symbols_of_isAlphanumeric (c := c) (by simp [isAlphanumeric, letter])
  simp [ofChar, unlisted, plain, letter]

theorem ofChar_of_isWhitespace {c : Char} (blank : isWhitespace c = true) :
    ofChar c = .space ∨ ofChar c = .skip := by
  have numeric := Unicode.isNumeric_eq_false_of_isWhitespace blank
  have letter := Unicode.isAlphabetic_eq_false_of_isWhitespace blank
  cases found : symbols.lookup c with
  | none => exact Or.inr (by simp [ofChar, found, numeric, letter])
  | some cls =>
    have member := mem_symbols_of_lookup found
    have spaced : ∀ entry ∈ symbols, isWhitespace entry.1 = true → entry.2 = space := by
      decide +kernel
    exact Or.inl (by simpa [ofChar, found] using spaced (c, cls) member blank)

theorem ofChar_eq_skip_iff {c : Char} :
    ofChar c = .skip ↔
      symbols.lookup c = none ∧ isNumeric c = false ∧ isAlphabetic c = false := by
  constructor
  · intro skipped
    cases found : symbols.lookup c with
    | some cls =>
      have member := mem_symbols_of_lookup found
      have listed : ∀ entry ∈ symbols, entry.2 ≠ skip := by decide
      simp only [ofChar, found] at skipped
      exact (listed (c, cls) member skipped).elim
    | none =>
      cases numeric : isNumeric c <;> cases letter : isAlphabetic c <;>
        simp [ofChar, found, numeric, letter] at skipped ⊢
  · rintro ⟨plain, numeric, letter⟩
    simp [ofChar, plain, numeric, letter]

theorem isWhitespace_of_ofChar {c : Char} (space : ofChar c = .space) :
    isWhitespace c = true := by
  cases found : symbols.lookup c with
  | some cls =>
    have listed : ∀ entry ∈ symbols, entry.2 = .space → isWhitespace entry.1 = true := by
      decide +kernel
    simp only [ofChar, found] at space
    exact listed (c, cls) (mem_symbols_of_lookup found) space
  | none =>
    cases numeric : isNumeric c <;> cases letter : isAlphabetic c <;>
      simp [ofChar, found, numeric, letter] at space

theorem isNumeric_of_ofChar {c : Char} (digit : ofChar c = .digit) : isNumeric c = true := by
  cases found : symbols.lookup c with
  | some cls =>
    have listed : ∀ entry ∈ symbols, entry.2 ≠ .digit := by decide
    simp only [ofChar, found] at digit
    exact (listed (c, cls) (mem_symbols_of_lookup found) digit).elim
  | none =>
    cases numeric : isNumeric c with
    | true => rfl
    | false => cases letter : isAlphabetic c <;> simp [ofChar, found, numeric, letter] at digit

end LineMark.Token.CharClass
