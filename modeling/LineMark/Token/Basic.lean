import LineMark.Location
import LineMark.Text.Literal
import LineMark.Text.Quoted
import LineMark.Token.Kind

/-!
Tokens and their two views: the display form, of which dumps are made, and the diagnostic form.
-/

set_option autoImplicit false
set_option relaxedAutoImplicit false

namespace LineMark

/-- A token: its kind, the text that it stands for without quotes, and the place of the scan when
the token was complete. -/
structure Token where
  kind : Token.Kind
  text : Text
  location : Location
  deriving DecidableEq

namespace Token

variable [Unicode.Database]

/-- The display form: the label of the kind, and for kinds with a payload the text in parentheses,
quoted when it is that of a string. -/
def display (token : Token) : Text :=
  let label := token.kind.label.toList
  if token.kind = .stringLiteral then label ++ '(' :: Text.Quoted.encode token.text ++ [')']
  else if token.kind.hasPayload then label ++ '(' :: token.text ++ [')']
  else label

def abridge (text : Text) : Text :=
  if text.length > 20 then text.take 17 ++ "...".toList else text

def diagnostic (token : Token) : Text :=
  "Token(".toList ++ token.kind.name.toList ++ ", ".toList ++
    Text.Literal.encode (abridge token.text) ++ ", ".toList ++
    { token.location with file := none }.toText ++ ")".toList

def dump (tokens : List Token) : Text :=
  tokens.flatMap fun token => token.display ++ ['\n']

end Token

end LineMark
