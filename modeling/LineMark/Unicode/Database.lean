import LineMark.Unicode.WhiteSpace

/-!
A character database gives every code point its general category and tells which code points are
alphabetic. Its laws are what the scanner relies on: they speak of ASCII, of white space and of
surrogates, and leave every other code point to the database.
-/

set_option autoImplicit false
set_option relaxedAutoImplicit false

namespace LineMark.Unicode

/-- The general categories. Those of letters, marks, punctuation marks and symbols are one here. -/
inductive Category
  | control
  | format
  | surrogate
  | privateUse
  | unassigned
  | decimalNumber
  | letterNumber
  | otherNumber
  | lineSeparator
  | paragraphSeparator
  | spaceSeparator
  | graphic
  deriving DecidableEq, Repr

namespace Category

def abbreviation? : Category → Option String
  | control => some "Cc"
  | format => some "Cf"
  | surrogate => some "Cs"
  | privateUse => some "Co"
  | unassigned => some "Cn"
  | decimalNumber => some "Nd"
  | letterNumber => some "Nl"
  | otherNumber => some "No"
  | lineSeparator => some "Zl"
  | paragraphSeparator => some "Zp"
  | spaceSeparator => some "Zs"
  | graphic => none

def numeric : List Category :=
  [decimalNumber, letterNumber, otherNumber]

/-- The categories whose code points are never shown as they are. -/
def unprintable : List Category :=
  [control, format, lineSeparator, paragraphSeparator, unassigned, privateUse, surrogate]

def ofAscii (c : Char) : Category :=
  if c.toNat < 0x20 ∨ c.toNat = 0x7F then control
  else if c = ' ' then spaceSeparator
  else if c.isDigit then decimalNumber
  else graphic

def ofWhiteSpace (point : CodePoint) : Category :=
  if point.value < 0x20 ∨ point.value = 0x85 then control
  else if point.value = 0x2028 then lineSeparator
  else if point.value = 0x2029 then paragraphSeparator
  else spaceSeparator

end Category

def numericCategories : List String :=
  Category.numeric.filterMap Category.abbreviation?

class Database where
  category : CodePoint → Category
  isAlphabetic : CodePoint → Bool
  category_of_ascii : ∀ c : Char, c.toNat < 0x80 → category c = Category.ofAscii c
  isAlphabetic_of_ascii : ∀ c : Char, c.toNat < 0x80 → isAlphabetic c = c.isAlpha
  category_of_whiteSpace :
    ∀ point, whiteSpace.contains point = true → category point = Category.ofWhiteSpace point
  isAlphabetic_of_whiteSpace :
    ∀ point, whiteSpace.contains point = true → isAlphabetic point = false
  category_of_isSurrogate : ∀ point, point.isSurrogate = true → category point = .surrogate

theorem forall_ascii (property : Char → Bool)
    (all : ((List.range 0x80).all fun value => property (.ofNat value)) = true) (c : Char)
    (ascii : c.toNat < 0x80) : property c = true := by
  have checked := List.all_eq_true.mp all c.toNat (List.mem_range.mpr ascii)
  rwa [Char.ofNat_toNat] at checked

section

variable [Database]

def isNumeric (c : Char) : Bool :=
  Category.numeric.contains (Database.category c)

def isAlphabetic (c : Char) : Bool :=
  Database.isAlphabetic c

def isAlphanumeric (c : Char) : Bool :=
  isAlphabetic c || isNumeric c

def isUnprintable (point : CodePoint) : Bool :=
  Category.unprintable.contains (Database.category point)

def isSpaceSeparator (point : CodePoint) : Bool :=
  Database.category point = .spaceSeparator

variable {c : Char}

theorem isNumeric_of_ascii (ascii : c.toNat < 0x80) : isNumeric c = c.isDigit := by
  rw [isNumeric, Database.category_of_ascii c ascii]
  exact eq_of_beq (forall_ascii
    (fun c => Category.numeric.contains (.ofAscii c) == c.isDigit)
    (by decide +kernel) c ascii)

theorem isAlphabetic_of_ascii (ascii : c.toNat < 0x80) : isAlphabetic c = c.isAlpha :=
  Database.isAlphabetic_of_ascii c ascii

theorem isAlphanumeric_of_ascii (ascii : c.toNat < 0x80) : isAlphanumeric c = c.isAlphanum := by
  rw [isAlphanumeric, isAlphabetic_of_ascii ascii, isNumeric_of_ascii ascii, Char.isAlphanum]

theorem isUnprintable_of_ascii (ascii : c.toNat < 0x80) :
    isUnprintable c = decide (c.toNat < 0x20 ∨ c.toNat = 0x7F) := by
  rw [isUnprintable, Database.category_of_ascii c ascii]
  exact eq_of_beq (forall_ascii
    (fun c => Category.unprintable.contains (.ofAscii c) ==
      decide (c.toNat < 0x20 ∨ c.toNat = 0x7F))
    (by decide +kernel) c ascii)

theorem isUnprintable_of_visible (low : 0x20 ≤ c.toNat) (high : c.toNat < 0x7F) :
    isUnprintable c = false := by
  rw [isUnprintable_of_ascii (by omega)]
  exact decide_eq_false (by omega)

theorem isNumeric_eq_false_of_isWhitespace (blank : isWhitespace c = true) :
    isNumeric c = false := by
  rw [isNumeric, Database.category_of_whiteSpace c blank, Category.ofWhiteSpace]
  repeat' split
  all_goals rfl

theorem isAlphabetic_eq_false_of_isWhitespace (blank : isWhitespace c = true) :
    isAlphabetic c = false :=
  Database.isAlphabetic_of_whiteSpace c blank

theorem isUnprintable_of_isSurrogate {point : CodePoint} (half : point.isSurrogate = true) :
    isUnprintable point = true := by
  rw [isUnprintable, Database.category_of_isSurrogate point half]
  rfl

end

end LineMark.Unicode
