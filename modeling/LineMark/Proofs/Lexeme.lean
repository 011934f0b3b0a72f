import LineMark.Proofs.Reading.Piece

/-!
The lexemes of the language: which texts the tokens of a kind may have. Every token that stands in a
source has such a text (`Piece.Stands.isOrdinary`, `Piece.Stands.isMarker`), and every such text is
that of a token (`Lexeme.IsOrdinary.stands`, `Lexeme.IsMarker.stands`).
-/

set_option autoImplicit false
set_option relaxedAutoImplicit false

namespace LineMark

abbrev Lexeme := Token.Kind × Text

def Token.lexeme (token : Token) : Lexeme :=
  (token.kind, token.text)

namespace Token.Kind

def isWord : Kind → Bool
  | functionDeclaration | returnStatement | primitiveType | identifier | boolLiteral => true
  | _ => false

theorem ne_of_isWord {kind other : Kind} (word : kind.isWord = true)
    (plain : other.isWord = false) : kind ≠ other := by
  rintro rfl
  rw [word] at plain
  cases plain

theorem isEndOfLine_of_isWord {kind : Kind} (word : kind.isWord = true) :
    kind.isEndOfLine = false := by
  revert word
  cases kind <;> decide

end Token.Kind

theorem Token.Word.isWord_kind (word : Text) : (Token.Word.kind word).isWord = true := by
  unfold Token.Word.kind
  cases found : Token.Word.reserved.lookup word with
  | none => rfl
  | some kind =>
    obtain ⟨before, after, split, -⟩ := List.lookup_eq_some_iff.mp found
    have member : (word, kind) ∈ Token.Word.reserved := by simp [split]
    have reserved : ∀ entry ∈ Token.Word.reserved, entry.2.isWord = true := by decide
    exact reserved (word, kind) member

theorem Token.CharClass.kind_of_punctuation {entry : Char × Token.Kind}
    (member : entry ∈ Token.CharClass.punctuationKinds) :
    entry.2.isEndOfLine = false ∧ entry.2.isWord = false ∧
      entry.2 ∉ [.stringLiteral, .intLiteral, .equals] := by
  have listed : ∀ entry ∈ Token.CharClass.punctuationKinds,
      entry.2.isEndOfLine = false ∧ entry.2.isWord = false ∧
        entry.2 ∉ [.stringLiteral, .intLiteral, .equals] := by decide
  exact listed entry member

namespace Lexeme

open Unicode (isNumeric isAlphabetic isAlphanumeric)

/-- The lexemes of the markers. The first trailer of a strict marker is never a line break, for
line breaks before it count as white space. -/
inductive IsMarker : Lexeme → Prop
  | strict : IsMarker (.endOfLine, "!".toList)
  | strictTrail {trailers : Text} :
      (∀ c ∈ trailers, c = '!' ∨ c = '\n') → IsMarker (.endOfLine, '!' :: '!' :: trailers)
  | debug : IsMarker (.debugEndOfLine, "?".toList)

theorem IsMarker.isEndOfLine {lexeme : Lexeme} (marker : IsMarker lexeme) :
    lexeme.1.isEndOfLine = true := by
  cases marker <;> rfl

variable [Unicode.Database]

inductive IsOrdinary : Lexeme → Prop
  | word {head : Char} {letters : Text} :
      isAlphabetic head = true → isNumeric head = false →
      (∀ c ∈ letters, isAlphanumeric c = true) →
      IsOrdinary (Token.Word.kind (head :: letters), head :: letters)
  | integer {digits : Text} :
      digits ≠ [] → (∀ c ∈ digits, isNumeric c = true) → IsOrdinary (.intLiteral, digits)
  | string {text : Text} : '"' ∉ text → IsOrdinary (.stringLiteral, text)
  | punctuation {c : Char} {kind : Token.Kind} :
      (c, kind) ∈ Token.CharClass.punctuationKinds → IsOrdinary (kind, [c])
  | equals : IsOrdinary (.equals, "=".toList)
  | arrow : IsOrdinary (.arrow, "=>".toList)

theorem IsOrdinary.isEndOfLine {lexeme : Lexeme} (ordinary : IsOrdinary lexeme) :
    lexeme.1.isEndOfLine = false := by
  cases ordinary with
  | word letter plain rest => exact Token.Kind.isEndOfLine_of_isWord (Token.Word.isWord_kind _)
  | punctuation member => exact (Token.CharClass.kind_of_punctuation member).1
  | integer | string | equals | arrow => rfl

/-- How a lexeme is written in a source: a string in quotes, and every other as it is. -/
def spelling (lexeme : Lexeme) : Text :=
  if lexeme.1 = .stringLiteral then '"' :: lexeme.2 ++ ['"'] else lexeme.2

theorem IsOrdinary.stands {lexeme : Lexeme} (ordinary : IsOrdinary lexeme) (mode : Mode) :
    ∃ head tail place, lexeme.spelling = head :: tail ∧
      Piece.Stands mode head tail (.lexeme lexeme.1 lexeme.2 place tail.length) := by
  cases ordinary with
  | @word head letters letter plain rest =>
    have cut : Text.IsRun isAlphanumeric letters [] := ⟨rest, by simp⟩
    have whole : Piece.Stands mode head (letters ++ []) _ := .word plain letter cut
    rw [List.append_nil] at whole
    exact ⟨head, letters, _, if_neg (Token.Kind.ne_of_isWord (Token.Word.isWord_kind _) rfl), whole⟩
  | @integer digits some_digit numeric =>
    obtain ⟨head, tail, rfl⟩ := List.exists_cons_of_ne_nil some_digit
    have cut : Text.IsRun isNumeric tail [] :=
      ⟨fun c member => numeric c (List.mem_cons_of_mem head member), by simp⟩
    have whole : Piece.Stands mode head (tail ++ []) _ :=
      .integer (numeric head (by simp)) cut fun _ => rfl
    rw [List.append_nil] at whole
    exact ⟨head, tail, _, rfl, whole⟩
  | @string text unquoted =>
    have whole : Piece.Stands mode '"' (text ++ ['"']) _ := .string unquoted
    exact ⟨'"', text ++ ['"'], _, rfl, by simpa using whole⟩
  | @punctuation c kind member =>
    have unquoted : kind ≠ .stringLiteral := by
      rintro rfl
      exact (Token.CharClass.kind_of_punctuation member).2.2 (by simp)
    exact ⟨c, [], _, if_neg unquoted, .punctuation member⟩
  | equals => exact ⟨'=', [], _, rfl, .equals (by simp)⟩
  | arrow => exact ⟨'=', ['>'], _, rfl, .arrow⟩

theorem IsMarker.stands {lexeme : Lexeme} (marker : IsMarker lexeme) (mode : Mode) :
    ∃ head tail place, lexeme.spelling = head :: tail ∧
      Piece.Stands mode head tail (.marker lexeme.1 lexeme.2 place) := by
  cases marker with
  | strict =>
    exact ⟨'!', [], _, rfl, @Piece.Stands.strictMarker _ mode [] [] ⟨by simp, by simp⟩ (by simp)⟩
  | @strictTrail trailers allowed =>
    have visible : Text.IsRun Unicode.isWhitespace [] ('!' :: trailers) := by
      refine ⟨by simp, fun c first => ?_⟩
      obtain rfl := Option.some.inj first
      decide
    exact ⟨'!', '!' :: trailers, _, rfl,
      @Piece.Stands.strictMarker _ mode [] _ visible (by simpa using allowed)⟩
  | debug => exact ⟨'?', [], _, rfl, .debugMarker (by simp)⟩

end Lexeme

namespace Piece.Stands

variable [Unicode.Database] {mode : Mode} {head : Char} {tail : Text}

theorem isOrdinary {kind : Token.Kind} {text : Text} {place width : Nat}
    (stands : Stands mode head tail (.lexeme kind text place width)) :
    Lexeme.IsOrdinary (kind, text) := by
  cases stands with
  | string unquoted => exact .string unquoted
  | punctuation member => exact .punctuation member
  | arrow => exact .arrow
  | equals other => exact .equals
  | integer numeric cut | integerSkip numeric cut =>
    exact .integer (by simp) (by simpa [numeric] using cut.holds)
  | word plain letter cut => exact .word letter plain cut.holds

theorem isMarker {kind : Token.Kind} {text : Text} {place : Nat}
    (stands : Stands mode head tail (.marker kind text place)) :
    Lexeme.IsMarker (kind, text) := by
  cases stands with
  | @strictMarker blanks trailers cut allowed =>
    cases trailers with
    | nil => exact .strict
    | cons first trailers =>
      have visible := cut.stops first rfl
      have mark : first = '!' := by
        rcases allowed first (by simp) with mark | line
        · exact mark
        · subst line
          exact absurd visible (by decide)
      subst mark
      exact .strictTrail fun c member => allowed c (by simp [member])
  | debugMarker blanks => exact .debug
  | debugLine cut => exact .debug

end Piece.Stands

end LineMark
