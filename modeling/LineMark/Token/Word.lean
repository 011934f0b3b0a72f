import LineMark.Token.Kind

/-!
Words: a closed list of spellings has kinds of its own, and every other word is an identifier.
The function keyword may be cut short to any length down to its first letter.
-/

set_option autoImplicit false
set_option relaxedAutoImplicit false

namespace LineMark.Token.Word

def functionKeyword : Text := "function".toList

def functionWords : List Text :=
  (List.range functionKeyword.length).map fun n => functionKeyword.take (n + 1)

def primitiveTypes : List Text :=
  ["Int".toList, "String".toList, "Char".toList, "Digit".toList, "Bool".toList]

def boolLiterals : List Text :=
  ["true".toList, "false".toList, "maybe".toList]

def reserved : List (Text × Kind) :=
  functionWords.map (·, .functionDeclaration) ++ primitiveTypes.map (·, .primitiveType) ++
    boolLiterals.map (·, .boolLiteral) ++ [("return".toList, .returnStatement)]

/-- The kind of a word: that of the reserved word with exactly this spelling, else identifier. -/
def kind (word : Text) : Kind :=
  (reserved.lookup word).getD .identifier

end LineMark.Token.Word
