import LineMark.Text.Basic

/-!
Numbers as texts: decimal with a minus sign, which no two integers share, and lowercase hexadecimal,
which `ofHex` reads back.
-/

set_option autoImplicit false
set_option relaxedAutoImplicit false

namespace LineMark.Text.Numeral

def decimal : Int → Text
  | .ofNat n => Nat.toDigits 10 n
  | .negSucc n => '-' :: Nat.toDigits 10 (n + 1)

def hex (n : Nat) : Text :=
  Nat.toDigits 16 n

def hexPadded (width n : Nat) : Text :=
  (hex n).leftpad width '0'

def hexDigit (c : Char) : Nat :=
  if c.isDigit then c.toNat - '0'.toNat else c.toNat - 'a'.toNat + 10

def ofHex (digits : Text) : Nat :=
  digits.foldl (fun n c => 16 * n + hexDigit c) 0

theorem eq_or_isDigit_of_mem_decimal {n : Int} {c : Char} (member : c ∈ decimal n) :
    c = '-' ∨ c.isDigit = true := by
  cases n with
  | ofNat n => exact Or.inr (Nat.isDigit_of_mem_toDigits (by decide) (by decide) member)
  | negSucc n =>
    rcases List.mem_cons.mp member with sign | digit
    · exact Or.inl sign
    · exact Or.inr (Nat.isDigit_of_mem_toDigits (by decide) (by decide) digit)

private theorem toDigits_inj {m n : Nat} (same : Nat.toDigits 10 m = Nat.toDigits 10 n) :
    m = n := by
  have read := congrArg (Nat.ofDigitChars 10 · 0) same
  simpa only [Nat.ofDigitChars_ten_toDigits] using read

private theorem decimal_ofNat_ne_negSucc (m n : Nat) :
    decimal (.ofNat m) ≠ decimal (.negSucc n) := by
  intro same
  have sign : '-' ∈ decimal (.ofNat m) := by
    rw [same]
    exact List.mem_cons_self
  exact absurd (Nat.isDigit_of_mem_toDigits (by decide) (by decide) sign) (by decide)

theorem decimal_inj {first second : Int} : decimal first = decimal second ↔ first = second := by
  refine ⟨fun same => ?_, fun same => same ▸ rfl⟩
  cases first with
  | ofNat m =>
    cases second with
    | ofNat n => exact congrArg Int.ofNat (toDigits_inj same)
    | negSucc n => exact (decimal_ofNat_ne_negSucc m n same).elim
  | negSucc m =>
    cases second with
    | ofNat n => exact (decimal_ofNat_ne_negSucc n m same.symm).elim
    | negSucc n =>
      have digits := toDigits_inj (List.cons.inj same).2
      exact congrArg Int.negSucc (Nat.succ.inj digits)

theorem hexDigit_digitChar {d : Nat} (digit : d < 16) : hexDigit (Nat.digitChar d) = d := by
  have all : ∀ d < 16, hexDigit (Nat.digitChar d) = d := by decide
  exact all d digit

theorem hex_induction {motive : Nat → Text → Prop}
    (digit : ∀ d < 16, motive d [Nat.digitChar d])
    (step : ∀ n, ∀ d < 16, motive n (hex n) → motive (16 * n + d) (hex n ++ [Nat.digitChar d]))
    (n : Nat) : motive n (hex n) := by
  induction n using Nat.strongRecOn with
  | ind n ih =>
    rw [hex, Nat.toDigits_eq_if (by decide)]
    split
    case isTrue small => exact digit n small
    case isFalse large =>
      have whole := step (n / 16) (n % 16) (Nat.mod_lt n (by decide)) (ih (n / 16) (by omega))
      rw [Nat.div_add_mod] at whole
      exact whole

theorem ofHex_hex (n : Nat) : ofHex (hex n) = n := by
  refine hex_induction (motive := fun n digits => ofHex digits = n) ?_ ?_ n
  · intro d small
    simp [ofHex, hexDigit_digitChar small]
  · intro n d small ih
    rw [ofHex, List.foldl_append]
    change 16 * ofHex (hex n) + hexDigit (Nat.digitChar d) = _
    rw [ih, hexDigit_digitChar small]

theorem exists_digit_of_mem_hex {n : Nat} {c : Char} (member : c ∈ hex n) :
    ∃ d < 16, c = Nat.digitChar d := by
  revert member
  refine hex_induction (motive := fun _ digits => c ∈ digits → ∃ d < 16, c = Nat.digitChar d)
    ?_ ?_ n
  · intro d small member
    exact ⟨d, small, List.mem_singleton.mp member⟩
  · intro n d small ih member
    rcases List.mem_append.mp member with higher | last
    · exact ih higher
    · exact ⟨d, small, List.mem_singleton.mp last⟩

end LineMark.Text.Numeral
