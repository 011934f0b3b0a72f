import LineMark.Text.Literal

/-!
Untyped values, as settings hold them: they are kept as they are given, tested for truth when a
choice is made, compared with flags, and shown as literals.
-/

set_option autoImplicit false
set_option relaxedAutoImplicit false

namespace LineMark

/-- An untyped value. The fields of a record keep their order. -/
inductive Datum
  | null
  | bool (value : Bool)
  | int (value : Int)
  | text (value : Text)
  | list (items : List Datum)
  | record (fields : List (Text × Datum))

namespace Datum

/-- Whether a value counts as true: all do but nothing, false, zero and what is empty. -/
def isTruthy : Datum → Bool
  | null => false
  | bool value => value
  | int value => value != 0
  | text value => !value.isEmpty
  | list items => !items.isEmpty
  | record fields => !fields.isEmpty

/-- Whether a value equals a flag: one equals true and zero equals false. -/
def equalsFlag (flag : Bool) : Datum → Bool
  | bool value => value == flag
  | int value => value == if flag then 1 else 0
  | _ => false

def listed (literals : List Text) : Text :=
  ", ".toList.intercalate literals

variable [Unicode.Database]

mutual

def literal : Datum → Text
  | null => "None".toList
  | bool true => "True".toList
  | bool false => "False".toList
  | int value => Text.Numeral.decimal value
  | text value => Text.Literal.encode value
  | list items => '[' :: listed (itemLiterals items) ++ [']']
  | record fields => '\x7b' :: listed (fieldLiterals fields) ++ ['\x7d']

def itemLiterals : List Datum → List Text
  | [] => []
  | item :: items => literal item :: itemLiterals items

def fieldLiterals : List (Text × Datum) → List Text
  | [] => []
  | (key, value) :: fields =>
    (Text.Literal.encode key ++ ": ".toList ++ literal value) :: fieldLiterals fields

end

end Datum

end LineMark
