/-!
Code points. They are the characters and, beside them, the surrogates: halves of pairs, which are no
characters and yet occur in texts.
-/

set_option autoImplicit false
set_option relaxedAutoImplicit false

namespace LineMark

structure CodePoint where
  value : Nat
  bound : value < 0x110000
  deriving DecidableEq

namespace CodePoint

def ofNat? (value : Nat) : Option CodePoint :=
  if bound : value < 0x110000 then some ⟨value, bound⟩ else none

@[simp] theorem ofNat?_value (point : CodePoint) : ofNat? point.value = some point :=
  dif_pos point.bound

def ofChar (c : Char) : CodePoint where
  value := c.toNat
  bound := by
    have valid : c.toNat < 0xD800 ∨ 0xDFFF < c.toNat ∧ c.toNat < 0x110000 := c.valid
    omega

instance : Coe Char CodePoint := ⟨ofChar⟩

@[simp] theorem ofChar_value (c : Char) : (ofChar c).value = c.toNat := rfl

def isSurrogate (point : CodePoint) : Bool :=
  0xD800 ≤ point.value && point.value ≤ 0xDFFF

theorem isSurrogate_iff {point : CodePoint} :
    point.isSurrogate = true ↔ 0xD800 ≤ point.value ∧ point.value ≤ 0xDFFF := by
  rw [isSurrogate, Bool.and_eq_true, decide_eq_true_eq, decide_eq_true_eq]

def toChar? (point : CodePoint) : Option Char :=
  if point.isSurrogate then none else some (.ofNat point.value)

theorem isSurrogate_ofChar (c : Char) : (ofChar c).isSurrogate = false := by
  have valid : c.toNat < 0xD800 ∨ 0xDFFF < c.toNat ∧ c.toNat < 0x110000 := c.valid
  rw [Bool.eq_false_iff, Ne, isSurrogate_iff, ofChar_value]
  omega

@[simp] theorem toChar?_ofChar (c : Char) : (ofChar c).toChar? = some c := by
  rw [toChar?, isSurrogate_ofChar, ofChar_value, Char.ofNat_toNat]
  rfl

theorem ofChar_inj {first second : Char} : ofChar first = ofChar second ↔ first = second := by
  refine ⟨fun same => ?_, fun same => same ▸ rfl⟩
  have read := congrArg toChar? same
  rw [toChar?_ofChar, toChar?_ofChar] at read
  exact Option.some.inj read

theorem exists_ofChar {point : CodePoint} (whole : point.isSurrogate = false) :
    ∃ c, ofChar c = point := by
  have valid : point.value.isValidChar := by
    have bound := point.bound
    rw [Bool.eq_false_iff, Ne, isSurrogate_iff] at whole
    show point.value < 0xD800 ∨ 0xDFFF < point.value ∧ point.value < 0x110000
    omega
  exact ⟨.ofNatAux point.value valid, rfl⟩

end CodePoint

end LineMark
