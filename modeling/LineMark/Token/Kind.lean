import LineMark.Text.Basic

/-!
The kinds of token, with their names and the two sets that the other modules ask about: the kinds
that end a line, and the kinds that are displayed with their text.
-/

set_option autoImplicit false
set_option relaxedAutoImplicit false

namespace LineMark.Token

inductive Kind
  | functionDeclaration
  | returnStatement
  | primitiveType
  | identifier
  | stringLiteral
  | intLiteral
  | boolLiteral
  | leftParen
  | rightParen
  | leftBrace
  | rightBrace
  | comma
  | arrow
  | equals
  | negation
  | endOfLine
  | debugEndOfLine
  deriving DecidableEq, Repr

namespace Kind

def all : List Kind :=
  [functionDeclaration, returnStatement, primitiveType, identifier, stringLiteral, intLiteral,
    boolLiteral, leftParen, rightParen, leftBrace, rightBrace, comma, arrow, equals, negation,
    endOfLine, debugEndOfLine]

theorem mem_all (kind : Kind) : kind ∈ all := by
  cases kind <;> decide

/-- The name under which requests and diagnostic views refer to a kind. -/
def name : Kind → String
  | functionDeclaration => "FUNCTION_DECLARATION"
  | returnStatement => "RETURN"
  | primitiveType => "PRIMITIVE_TYPE"
  | identifier => "IDENTIFIER"
  | stringLiteral => "STRING_LITERAL"
  | intLiteral => "INT_LITERAL"
  | boolLiteral => "BOOL_LITERAL"
  | leftParen => "LPAREN"
  | rightParen => "RPAREN"
  | leftBrace => "LBRACE"
  | rightBrace => "RBRACE"
  | comma => "COMMA"
  | arrow => "ARROW"
  | equals => "EQUALS"
  | negation => "LOGICAL_NOT_MARKER"
  | endOfLine => "END_OF_LINE"
  | debugEndOfLine => "END_OF_LINE_DEBUG"

/-- The name that stands for a kind in a dump of tokens. -/
def label : Kind → String
  | functionDeclaration => "FunctionDeclaration"
  | returnStatement => "Return"
  | primitiveType => "Primitive"
  | identifier => "Identifier"
  | stringLiteral => "StringLiteral"
  | intLiteral => "IntLiteral"
  | boolLiteral => "BoolLiteral"
  | leftParen => "Lparen"
  | rightParen => "Rparen"
  | leftBrace => "Lbrace"
  | rightBrace => "Rbrace"
  | comma => "Comma"
  | arrow => "Arrow"
  | equals => "Equals"
  | negation => "Not"
  | endOfLine => "Eol"
  | debugEndOfLine => "EolDebug"

def ofName? (text : Text) : Option Kind :=
  all.find? (·.name.toList = text)

def ofLabel? (text : Text) : Option Kind :=
  all.find? (·.label.toList = text)

def isEndOfLine : Kind → Bool
  | endOfLine | debugEndOfLine => true
  | _ => false

def hasPayload : Kind → Bool
  | identifier | stringLiteral | intLiteral | primitiveType | boolLiteral => true
  | _ => false

end Kind

end LineMark.Token
