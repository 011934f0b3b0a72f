import LineMark.Proofs.Characters
import LineMark.Proofs.Runs
import LineMark.Reading

/-!
The pieces case by case. `Piece.Stands` lists what may stand at the head of a text, each case with
the text after the head cut where the piece ends; the list is complete (`Piece.stands_ofText`) and
no two of its cases meet (`Piece.Stands.ofText_eq`). What is to be shown of every piece is shown by
going through it.
-/

set_option autoImplicit false
set_option relaxedAutoImplicit false

namespace LineMark.Piece

open Token (CharClass)
open Text (IsRun)
open Unicode (isWhitespace isNumeric isAlphabetic isAlphanumeric)

variable {mode : Mode} {head : Char}

def isMarkerBlank (mode : Mode) (c : Char) : Bool :=
  isWhitespace c && (mode.markerCrossesLines || c != '\n')

private def debugPiece (skipped : Nat) : Text → Piece
  | [] => .marker .debugEndOfLine "?".toList (skipped + 1)
  | '\n' :: _ => .marker .debugEndOfLine "?".toList (skipped + 2)
  | _ :: _ => .fault .deadCode (skipped + 1)

private theorem ofDebugMarker_of_isRun {blanks rest : Text}
    (cut : IsRun (isMarkerBlank mode) blanks rest) :
    ofDebugMarker mode (blanks ++ rest) = debugPiece blanks.length rest := by
  have taken : (blanks ++ rest).takeWhile
      (fun c => isWhitespace c && (mode.markerCrossesLines || c != '\n')) = blanks :=
    cut.takeWhile_eq
  simp only [ofDebugMarker, taken, List.drop_left]
  rfl

private theorem debugPiece_of_ne {skipped : Nat} {bad : Char} {rest : Text} (other : bad ≠ '\n') :
    debugPiece skipped (bad :: rest) = .fault .deadCode (skipped + 1) := by
  unfold debugPiece
  split
  case h_1 impossible => cases impossible
  case h_2 same => exact (other (List.cons.inj same).1).elim
  case h_3 => rfl

private theorem ne_of_lookup_symbols {symbol : Char} {cls : CharClass}
    (plain : CharClass.symbols.lookup head = none) (member : (symbol, cls) ∈ CharClass.symbols) :
    head ≠ symbol := by
  simpa using List.lookup_eq_none_iff.mp plain (symbol, cls) member

private theorem lookup_punctuationKinds_of_lookup_symbols
    (plain : CharClass.symbols.lookup head = none) :
    CharClass.punctuationKinds.lookup head = none := by
  rw [List.lookup_eq_none_iff]
  rintro ⟨symbol, kind⟩ member
  have listed : (symbol, CharClass.punctuation) ∈ CharClass.symbols :=
    List.mem_append_right _ (List.mem_map.mpr ⟨(symbol, kind), member, rfl⟩)
  simpa using ne_of_lookup_symbols plain listed

variable [Unicode.Database]

/-- The piece that stands at the head of a text. -/
inductive Stands (mode : Mode) : Char → Text → Piece → Prop
  | blank {head : Char} {tail : Text} :
      isWhitespace head = true → Stands mode head tail .gap
  | skipped {head : Char} {tail : Text} :
      CharClass.ofChar head = .skip → Stands mode head tail .gap
  | string {inside rest : Text} :
      '"' ∉ inside →
      Stands mode '"' (inside ++ '"' :: rest)
        (.lexeme .stringLiteral inside (inside.length + 1) (inside.length + 1))
  | openString {tail : Text} :
      '"' ∉ tail → Stands mode '"' tail (.fault .unterminatedString (tail.length + 1))
  | punctuation {head : Char} {kind : Token.Kind} {tail : Text} :
      (head, kind) ∈ CharClass.punctuationKinds →
      Stands mode head tail (.lexeme kind [head] 0 0)
  | arrow {rest : Text} :
      Stands mode '=' ('>' :: rest) (.lexeme .arrow "=>".toList 1 1)
  | equals {tail : Text} :
      tail.head? ≠ some '>' → Stands mode '=' tail (.lexeme .equals "=".toList 0 0)
  | integer {head : Char} {digits rest : Text} :
      isNumeric head = true → IsRun isNumeric digits rest →
      (mode.skipAfterInteger = true → rest = []) →
      Stands mode head (digits ++ rest)
        (.lexeme .intLiteral (head :: digits) (digits.length + 1) digits.length)
  | integerSkip {head swallowed : Char} {digits rest : Text} :
      isNumeric head = true → IsRun isNumeric digits (swallowed :: rest) →
      mode.skipAfterInteger = true →
      Stands mode head (digits ++ swallowed :: rest)
        (.lexeme .intLiteral (head :: digits) (digits.length + 1) (digits.length + 1))
  | word {head : Char} {letters rest : Text} :
      isNumeric head = false → isAlphabetic head = true → IsRun isAlphanumeric letters rest →
      Stands mode head (letters ++ rest)
        (.lexeme (Token.Word.kind (head :: letters)) (head :: letters) (letters.length + 1)
          letters.length)
  | strictMarker {blanks trailers : Text} :
      IsRun isWhitespace blanks trailers → (∀ c ∈ trailers, c = '!' ∨ c = '\n') →
      Stands mode '!' (blanks ++ trailers)
        (.marker .endOfLine ('!' :: trailers) (blanks.length + trailers.length + 1))
  | strictFault {blanks trailers rest : Text} {bad : Char} :
      IsRun isWhitespace blanks (trailers ++ bad :: rest) →
      (∀ c ∈ trailers, c = '!' ∨ c = '\n') → ¬(bad = '!' ∨ bad = '\n') →
      Stands mode '!' (blanks ++ (trailers ++ bad :: rest))
        (.fault .deadCode (blanks.length + trailers.length + 1))
  | debugMarker {blanks : Text} :
      (∀ c ∈ blanks, isMarkerBlank mode c = true) →
      Stands mode '?' blanks (.marker .debugEndOfLine "?".toList (blanks.length + 1))
  | debugLine {blanks rest : Text} :
      IsRun (isMarkerBlank mode) blanks ('\n' :: rest) →
      Stands mode '?' (blanks ++ '\n' :: rest)
        (.marker .debugEndOfLine "?".toList (blanks.length + 2))
  | debugFault {blanks rest : Text} {bad : Char} :
      IsRun (isMarkerBlank mode) blanks (bad :: rest) → bad ≠ '\n' →
      Stands mode '?' (blanks ++ bad :: rest) (.fault .deadCode (blanks.length + 1))

variable {tail : Text} {piece : Piece}

private theorem stands_ofQuote (tail : Text) : Stands mode '"' tail (ofQuote tail) := by
  obtain ⟨run, rest, rfl, cut⟩ := Text.exists_isRun (· ≠ '"') tail
  have inside : '"' ∉ run := by
    intro member
    simpa using cut.holds '"' member
  rw [ofQuote, cut.takeWhile_eq]
  cases rest with
  | nil =>
    rw [List.append_nil, if_neg (Nat.lt_irrefl _)]
    exact .openString inside
  | cons c rest =>
    have quote : c = '"' := by simpa using cut.stops c rfl
    subst quote
    rw [if_pos (by simp)]
    exact .string inside

private theorem stands_ofEquals (tail : Text) : Stands mode '=' tail (ofEquals tail) := by
  unfold ofEquals
  split
  case isTrue arrow =>
    obtain ⟨rest, rfl⟩ := List.head?_eq_some_iff.mp arrow
    exact .arrow
  case isFalse plain => exact .equals plain

private theorem ofDigit_of_isRun {digits rest : Text} (cut : IsRun isNumeric digits rest) :
    ofDigit mode head (digits ++ rest) =
      .lexeme .intLiteral (head :: digits) (digits.length + 1)
        (if mode.skipAfterInteger ∧ rest ≠ [] then digits.length + 1 else digits.length) := by
  simp only [ofDigit, cut.takeWhile_eq, List.length_append]
  congr 1
  cases mode.skipAfterInteger <;> cases rest <;> simp

private theorem stands_ofDigit (numeric : isNumeric head = true) (tail : Text) :
    Stands mode head tail (ofDigit mode head tail) := by
  obtain ⟨digits, rest, rfl, cut⟩ := Text.exists_isRun isNumeric tail
  rw [ofDigit_of_isRun cut]
  split
  case isTrue skips =>
    obtain ⟨skips, more⟩ := skips
    obtain ⟨swallowed, rest, rfl⟩ := List.exists_cons_of_ne_nil more
    exact .integerSkip numeric cut skips
  case isFalse keeps =>
    exact .integer numeric cut fun skips => by simpa [skips] using keeps

private theorem stands_ofLetter (plain : isNumeric head = false)
    (letter : isAlphabetic head = true) (tail : Text) :
    Stands mode head tail (ofLetter head tail) := by
  obtain ⟨letters, rest, rfl, cut⟩ := Text.exists_isRun isAlphanumeric tail
  rw [ofLetter, cut.takeWhile_eq]
  exact .word plain letter cut

private theorem stands_ofStrictMarker (tail : Text) :
    Stands mode '!' tail (ofStrictMarker tail) := by
  obtain ⟨blanks, after, rfl, cut⟩ := Text.exists_isRun isWhitespace tail
  obtain ⟨trailers, rest, rfl, trail⟩ := Text.exists_isRun (fun c => c = '!' ∨ c = '\n') after
  have allowed : ∀ c ∈ trailers, c = '!' ∨ c = '\n' := by simpa using trail.holds
  simp only [ofStrictMarker, cut.takeWhile_eq, List.drop_left, trail.takeWhile_eq]
  cases rest with
  | nil =>
    simp only [List.append_nil, Nat.lt_irrefl, if_false, List.length_append] at cut ⊢
    exact .strictMarker cut allowed
  | cons bad rest =>
    have refused : ¬(bad = '!' ∨ bad = '\n') := by simpa using trail.stops bad rfl
    simp only [List.length_append, List.length_cons, Nat.lt_add_right_iff_pos, Nat.succ_pos,
      if_true]
    exact .strictFault cut allowed refused

private theorem stands_ofDebugMarker (tail : Text) :
    Stands mode '?' tail (ofDebugMarker mode tail) := by
  obtain ⟨blanks, rest, rfl, cut⟩ := Text.exists_isRun (isMarkerBlank mode) tail
  rw [ofDebugMarker_of_isRun cut]
  cases rest with
  | nil =>
    rw [List.append_nil]
    exact .debugMarker cut.holds
  | cons bad rest =>
    by_cases line : bad = '\n'
    · subst line
      exact .debugLine cut
    · rw [debugPiece_of_ne line]
      exact .debugFault cut line

private theorem ofText_of_lookup_symbols (plain : CharClass.symbols.lookup head = none) :
    ofText mode head tail =
      if isWhitespace head then .gap
      else if isNumeric head then ofDigit mode head tail
      else if isAlphabetic head then ofLetter head tail
      else .gap := by
  simp only [ofText, lookup_punctuationKinds_of_lookup_symbols plain]
  have quote := ne_of_lookup_symbols plain (by decide : ('"', CharClass.quote) ∈ CharClass.symbols)
  have equals :=
    ne_of_lookup_symbols plain (by decide : ('=', CharClass.equals) ∈ CharClass.symbols)
  have strict :=
    ne_of_lookup_symbols plain (by decide : ('!', CharClass.strictMarker) ∈ CharClass.symbols)
  have debug :=
    ne_of_lookup_symbols plain (by decide : ('?', CharClass.debugMarker) ∈ CharClass.symbols)
  rw [if_neg quote, if_neg equals, if_neg strict, if_neg debug]

private theorem ofText_of_isNumeric (numeric : isNumeric head = true) :
    ofText mode head tail = ofDigit mode head tail := by
  have some_letter : isAlphanumeric head = true := by simp [isAlphanumeric, numeric]
  rw [ofText_of_lookup_symbols (CharClass.lookup_symbols_of_isAlphanumeric some_letter),
    Unicode.isWhitespace_eq_false_of_isAlphanumeric some_letter, numeric]
  rfl

theorem stands_ofText (mode : Mode) (head : Char) (tail : Text) :
    Stands mode head tail (ofText mode head tail) := by
  cases found : CharClass.symbols.lookup head with
  | none =>
    rw [ofText_of_lookup_symbols found]
    cases blank : isWhitespace head with
    | true => exact .blank blank
    | false =>
      cases numeric : isNumeric head with
      | true => exact stands_ofDigit numeric tail
      | false =>
        cases letter : isAlphabetic head with
        | true => exact stands_ofLetter numeric letter tail
        | false => exact .skipped (by simp [CharClass.ofChar, found, numeric, letter])
  | some cls =>
    have member := CharClass.mem_symbols_of_lookup found
    simp only [CharClass.symbols, CharClass.punctuationKinds, List.map_cons, List.map_nil,
      List.cons_append, List.nil_append, List.mem_cons, Prod.mk.injEq, List.not_mem_nil,
      or_false] at member
    rcases member with ⟨rfl, -⟩ | ⟨rfl, -⟩ | ⟨rfl, -⟩ | ⟨rfl, -⟩ | ⟨rfl, -⟩ | ⟨rfl, -⟩ |
      ⟨rfl, -⟩ | ⟨rfl, -⟩ | ⟨rfl, -⟩ | ⟨rfl, -⟩ | ⟨rfl, -⟩
    · exact .blank (by decide)
    · exact stands_ofQuote tail
    · exact stands_ofEquals tail
    · exact stands_ofStrictMarker tail
    · exact stands_ofDebugMarker tail
    all_goals exact .punctuation (by decide)

theorem Stands.ofText_eq (stands : Stands mode head tail piece) :
    ofText mode head tail = piece := by
  cases stands with
  | blank blank => simp [ofText, blank]
  | skipped skipped =>
    obtain ⟨plain, numeric, letter⟩ := CharClass.ofChar_eq_skip_iff.mp skipped
    rw [ofText_of_lookup_symbols plain]
    simp [numeric, letter]
  | @string inside rest unquoted =>
    have cut : IsRun (· ≠ '"') inside ('"' :: rest) := Text.isRun_ne unquoted (by simp)
    change ofQuote _ = _
    rw [ofQuote, cut.takeWhile_eq, if_pos (by simp)]
  | openString unquoted =>
    have cut : IsRun (· ≠ '"') tail [] := Text.isRun_ne unquoted (by simp)
    change ofQuote _ = _
    rw [ofQuote, cut.takeWhile_self, if_neg (Nat.lt_irrefl _)]
  | punctuation member =>
    simp only [CharClass.punctuationKinds, List.mem_cons, Prod.mk.injEq, List.not_mem_nil,
      or_false] at member
    rcases member with ⟨rfl, rfl⟩ | ⟨rfl, rfl⟩ | ⟨rfl, rfl⟩ | ⟨rfl, rfl⟩ | ⟨rfl, rfl⟩ |
      ⟨rfl, rfl⟩ <;> rfl
  | arrow => rfl
  | equals other => exact if_neg other
  | @integer _ digits rest numeric cut keeps =>
    have no_skip : ¬(mode.skipAfterInteger = true ∧ rest ≠ []) :=
      fun skips => skips.2 (keeps skips.1)
    rw [ofText_of_isNumeric numeric, ofDigit_of_isRun cut, if_neg no_skip]
  | integerSkip numeric cut skips =>
    rw [ofText_of_isNumeric numeric, ofDigit_of_isRun cut, if_pos (by simp [skips])]
  | @word _ letters rest plain letter cut =>
    have some_letter : isAlphanumeric head = true := by simp [isAlphanumeric, letter]
    rw [ofText_of_lookup_symbols (CharClass.lookup_symbols_of_isAlphanumeric some_letter),
      Unicode.isWhitespace_eq_false_of_isAlphanumeric some_letter, plain, letter]
    simp only [Bool.false_eq_true, if_false, if_true, ofLetter, cut.takeWhile_eq]
  | @strictMarker blanks trailers cut allowed =>
    have trail : IsRun (fun c => c = '!' ∨ c = '\n') trailers [] :=
      ⟨by simpa using allowed, by simp⟩
    change ofStrictMarker _ = _
    simp only [ofStrictMarker, cut.takeWhile_eq, List.drop_left, trail.takeWhile_self,
      Nat.lt_irrefl, if_false, List.length_append]
  | @strictFault blanks trailers rest bad cut allowed refused =>
    have trail : IsRun (fun c => c = '!' ∨ c = '\n') trailers (bad :: rest) :=
      ⟨by simpa using allowed, by simpa using refused⟩
    change ofStrictMarker _ = _
    simp only [ofStrictMarker, cut.takeWhile_eq, List.drop_left, trail.takeWhile_eq,
      List.length_append, List.length_cons, Nat.lt_add_right_iff_pos, Nat.succ_pos, if_true]
  | debugMarker blanks =>
    have cut : IsRun (isMarkerBlank mode) tail [] := ⟨blanks, by simp⟩
    have decided := ofDebugMarker_of_isRun cut
    rw [List.append_nil] at decided
    exact decided
  | debugLine cut => exact ofDebugMarker_of_isRun cut
  | debugFault cut other => exact (ofDebugMarker_of_isRun cut).trans (debugPiece_of_ne other)

theorem Stands.exists_digits (stands : Stands mode head tail piece)
    (numeric : isNumeric head = true) :
    ∃ digits rest, tail = digits ++ rest ∧ IsRun isNumeric digits rest ∧
      piece = .lexeme .intLiteral (head :: digits) (digits.length + 1)
        (if mode.skipAfterInteger ∧ rest ≠ [] then digits.length + 1 else digits.length) := by
  obtain ⟨digits, rest, rfl, cut⟩ := Text.exists_isRun isNumeric tail
  refine ⟨digits, rest, rfl, cut, ?_⟩
  rw [← stands.ofText_eq, ofText_of_isNumeric numeric, ofDigit_of_isRun cut]

theorem Stands.of_mode (stands : Stands mode head tail piece) {other : Mode}
    (skips : isNumeric head = true → other.skipAfterInteger = mode.skipAfterInteger)
    (crosses : head = '?' → other.markerCrossesLines = mode.markerCrossesLines) :
    Stands other head tail piece := by
  have same_blanks : head = '?' → isMarkerBlank mode = isMarkerBlank other := by
    intro marker
    funext c
    rw [isMarkerBlank, isMarkerBlank, crosses marker]
  cases stands with
  | blank blank => exact .blank blank
  | skipped skipped => exact .skipped skipped
  | string unquoted => exact .string unquoted
  | openString unquoted => exact .openString unquoted
  | punctuation member => exact .punctuation member
  | arrow => exact .arrow
  | equals plain => exact .equals plain
  | integer numeric cut keeps =>
    exact .integer numeric cut fun skipped => keeps ((skips numeric).symm.trans skipped)
  | integerSkip numeric cut skipped =>
    exact .integerSkip numeric cut ((skips numeric).trans skipped)
  | word plain letter cut => exact .word plain letter cut
  | strictMarker cut allowed => exact .strictMarker cut allowed
  | strictFault cut allowed refused => exact .strictFault cut allowed refused
  | debugMarker blanks => exact .debugMarker (same_blanks rfl ▸ blanks)
  | debugLine cut => exact .debugLine (same_blanks rfl ▸ cut)
  | debugFault cut bad => exact .debugFault (same_blanks rfl ▸ cut) bad

end LineMark.Piece
