/-!
Texts as lists of characters, and the parts of a text between two bounds. Bounds are integers: a
negative one counts from the end of the text, and a part reaches no further than the text does.
-/

set_option autoImplicit false
set_option relaxedAutoImplicit false

namespace LineMark

abbrev Text := List Char

namespace Text

/-- The number of characters that a bound leaves before it: a negative bound counts from the end
of the text, and not beyond its start. -/
def before (text : Text) (bound : Int) : Nat :=
  if bound < 0 then (bound + text.length).toNat else bound.toNat

@[simp] theorem before_natCast (text : Text) (bound : Nat) : before text bound = bound := by
  unfold before
  split <;> omega

def suffixFrom (text : Text) (start : Int) : Text :=
  text.drop (before text start)

theorem suffixFrom_append (before inside rest : Text) :
    suffixFrom (before ++ (inside ++ rest)) (before.length + inside.length : Nat) = rest := by
  rw [suffixFrom, before_natCast, ← List.append_assoc, ← List.length_append, List.drop_left]

def upTo (text : Text) (stop : Int) : Text :=
  text.take (before text stop)

def slice (text : Text) (start stop : Int) : Text :=
  (text.drop (before text start)).take (before text stop - before text start)

theorem slice_append (before inside rest : Text) :
    slice (before ++ (inside ++ rest)) before.length (before.length + inside.length : Nat) =
      inside := by
  rw [slice, before_natCast, before_natCast, List.drop_left, Nat.add_sub_cancel_left,
    List.take_left]

def find? (text : Text) (c : Char) (start : Int) : Option Int :=
  ((text.drop (before text start)).findIdx? (· = c)).map fun distance =>
    (before text start + distance : Nat)

end Text

end LineMark
