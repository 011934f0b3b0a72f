import LineMark.Unicode.Alphabetic
import LineMark.Unicode.Database
import LineMark.Unicode.Numeric
import LineMark.Unicode.Unprintable

/-!
Unicode 15.0 as a character database, looked up in tables of intervals.
-/

set_option autoImplicit false
set_option relaxedAutoImplicit false

namespace LineMark.Unicode.Tables

/-- The tables of all categories but that of the code points which are in none of them. -/
def ofCategory : List (Category × RangeTable) :=
  [(.surrogate, surrogate), (.control, control), (.decimalNumber, decimalNumber),
    (.letterNumber, letterNumber), (.otherNumber, otherNumber),
    (.spaceSeparator, spaceSeparator), (.lineSeparator, lineSeparator),
    (.paragraphSeparator, paragraphSeparator), (.format, format), (.privateUse, privateUse),
    (.unassigned, unassigned)]

def category (point : CodePoint) : Category :=
  match ofCategory.find? (·.2.contains point) with
  | some entry => entry.1
  | none => .graphic

theorem category_of_ascii (c : Char) (ascii : c.toNat < 0x80) :
    category c = Category.ofAscii c :=
  eq_of_beq (forall_ascii (fun c => category c == .ofAscii c)
    (by decide +kernel) c ascii)

theorem isAlphabetic_of_ascii (c : Char) (ascii : c.toNat < 0x80) :
    alphabetic.contains c = c.isAlpha :=
  eq_of_beq (forall_ascii (fun c => alphabetic.contains c == c.isAlpha)
    (by decide +kernel) c ascii)

theorem forall_whiteSpace (property : CodePoint → Bool)
    (all : (whiteSpace.points.all fun value => (CodePoint.ofNat? value).any property) = true)
    (point : CodePoint) (blank : whiteSpace.contains point = true) : property point = true := by
  have checked := List.all_eq_true.mp all point.value (RangeTable.mem_points.mpr blank)
  rwa [CodePoint.ofNat?_value, Option.any_some] at checked

theorem category_of_whiteSpace (point : CodePoint) (blank : whiteSpace.contains point = true) :
    category point = Category.ofWhiteSpace point :=
  eq_of_beq (forall_whiteSpace (fun point => category point == .ofWhiteSpace point)
    (by decide +kernel) point blank)

theorem isAlphabetic_of_whiteSpace (point : CodePoint)
    (blank : whiteSpace.contains point = true) : alphabetic.contains point = false := by
  have plain := forall_whiteSpace (fun point => !alphabetic.contains point)
    (by decide +kernel) point blank
  rwa [Bool.not_eq_true'] at plain

theorem category_of_isSurrogate (point : CodePoint) (half : point.isSurrogate = true) :
    category point = .surrogate := by
  have found : surrogate.contains point = true :=
    (surrogate.contains_iff point).mpr
      ⟨(0xD800, 0xDFFF), List.mem_singleton_self _, CodePoint.isSurrogate_iff.mp half⟩
  have first : ofCategory.find? (·.2.contains point) = some (.surrogate, surrogate) :=
    List.find?_cons_of_pos found
  rw [category, first]

instance : Database where
  category := category
  isAlphabetic := alphabetic.contains
  category_of_ascii := category_of_ascii
  isAlphabetic_of_ascii := isAlphabetic_of_ascii
  category_of_whiteSpace := category_of_whiteSpace
  isAlphabetic_of_whiteSpace := isAlphabetic_of_whiteSpace
  category_of_isSurrogate := category_of_isSurrogate

end LineMark.Unicode.Tables
