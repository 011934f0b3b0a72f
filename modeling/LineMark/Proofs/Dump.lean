import LineMark.Proofs.RoundTrip
import LineMark.Proofs.Text.Lines
import LineMark.Proofs.Text.Quoted
import LineMark.Unicode.Tables
import Mathlib.Data.List.Forall2

/-!
Dumps of tokens tell everything that they show. A display form is the label of a kind and then what
is shown of a text, and either can be told from it; the tokens of a source have display forms
without line breaks, so that the lines of a dump are those forms.
-/

set_option autoImplicit false
set_option relaxedAutoImplicit false

namespace LineMark

open Text (IsRun IsLine isLineBreak)
open Unicode (isAlphanumeric)

namespace Token

theorem Kind.ofLabel?_label (kind : Kind) : Kind.ofLabel? kind.label.toList = some kind := by
  cases kind <;> decide

theorem Kind.isAlpha_of_mem_label {kind : Kind} {c : Char} (member : c ∈ kind.label.toList) :
    c.toNat < 0x80 ∧ c.isAlpha = true := by
  have all : kind.label.toList.all (fun c => c.toNat < 0x80 ∧ c.isAlpha = true) = true := by
    cases kind <;> decide
  exact of_decide_eq_true (List.all_eq_true.mp all c member)

/-- Two tokens of one kind, with one text if tokens of this kind are displayed with their text. -/
structure ShowsAlike (first second : Token) : Prop where
  kind : first.kind = second.kind
  text : first.kind.hasPayload = true → first.text = second.text

end Token

theorem Lexeme.IsMarker.hasPayload {lexeme : Lexeme} (marker : lexeme.IsMarker) :
    lexeme.1.hasPayload = false := by
  cases marker <;> rfl

section

variable [Unicode.Database]

namespace Token

theorem Kind.isAlphanumeric_of_mem_label {kind : Kind} {c : Char}
    (member : c ∈ kind.label.toList) : isAlphanumeric c = true := by
  obtain ⟨ascii, letter⟩ := isAlpha_of_mem_label member
  rw [Unicode.isAlphanumeric_of_ascii ascii, Char.isAlphanum, letter, Bool.true_or]

def payload (token : Token) : Text :=
  if token.kind = .stringLiteral then '(' :: Text.Quoted.encode token.text ++ [')']
  else if token.kind.hasPayload then '(' :: token.text ++ [')']
  else []

theorem display_eq (token : Token) : token.display = token.kind.label.toList ++ token.payload := by
  simp only [display, payload]
  split
  · simp only [List.append_assoc]
  · split
    · simp only [List.append_assoc]
    · simp only [List.append_nil]

theorem head?_payload (token : Token) : ∀ c ∈ token.payload.head?, c = '(' := by
  unfold payload
  split
  · simp
  · split <;> simp

variable {first second token : Token}

private theorem text_of_payload (same_kind : first.kind = second.kind)
    (shown : first.kind.hasPayload = true) (same : first.payload = second.payload) :
    first.text = second.text := by
  simp only [payload, ← same_kind, shown, if_true] at same
  split at same
  · have quotations := List.append_cancel_right same
    exact Text.Quoted.encode_inj.mp (List.cons.inj quotations).2
  · have texts := List.append_cancel_right same
    exact (List.cons.inj texts).2

private theorem payload_of_showsAlike (alike : first.ShowsAlike second) :
    first.payload = second.payload := by
  obtain ⟨same_kind, same_text⟩ := alike
  cases shown : first.kind.hasPayload with
  | true => simp only [payload, ← same_kind, same_text shown]
  | false =>
    have unquoted : first.kind ≠ .stringLiteral := by
      intro quoted
      rw [quoted] at shown
      cases shown
    simp [payload, ← same_kind, shown, unquoted]

theorem display_eq_iff : first.display = second.display ↔ first.ShowsAlike second := by
  constructor
  · intro same
    rw [display_eq, display_eq] at same
    have cut : ∀ token : Token, IsRun (· ≠ '(') token.kind.label.toList token.payload := by
      intro token
      refine Text.isRun_ne (fun member => ?_) token.head?_payload
      exact absurd (Kind.isAlpha_of_mem_label member).2 (by decide)
    have labels := congrArg (List.takeWhile (· ≠ '(')) same
    rw [(cut first).takeWhile_eq, (cut second).takeWhile_eq] at labels
    have same_kind : first.kind = second.kind := by
      have kinds := congrArg Kind.ofLabel? labels
      rw [Kind.ofLabel?_label, Kind.ofLabel?_label] at kinds
      exact Option.some.inj kinds
    rw [labels] at same
    exact ⟨same_kind, fun shown => text_of_payload same_kind shown (List.append_cancel_left same)⟩
  · intro alike
    rw [display_eq, display_eq, alike.kind, payload_of_showsAlike alike]

theorem dump_eq (tokens : List Token) :
    dump tokens = (tokens.map display).flatMap (· ++ ['\n']) := by
  rw [dump, List.flatMap_map]

end Token

namespace Lexeme

variable {lexeme : Lexeme}

theorem IsOrdinary.isAlphanumeric (ordinary : IsOrdinary lexeme)
    (shown : lexeme.1.hasPayload = true) (unquoted : lexeme.1 ≠ .stringLiteral) :
    ∀ c ∈ lexeme.2, isAlphanumeric c = true := by
  cases ordinary with
  | word letter plain rest =>
    refine List.forall_mem_cons.mpr ⟨?_, rest⟩
    simp [Unicode.isAlphanumeric, letter]
  | integer some_digit numeric =>
    intro c member
    simp [Unicode.isAlphanumeric, numeric c member]
  | string absent => exact (unquoted rfl).elim
  | @punctuation c kind member =>
    have hidden : ∀ entry ∈ Token.CharClass.punctuationKinds, entry.2.hasPayload = false := by
      decide
    rw [hidden (c, kind) member] at shown
    cases shown
  | equals | arrow => cases shown

end Lexeme

namespace Token

variable {token : Token}

private theorem isLine_of_isAlphanumeric {text : Text}
    (letters : ∀ c ∈ text, isAlphanumeric c = true) : IsLine text :=
  Text.isLine_of_forall letters fun _ ends =>
    Bool.eq_false_iff.mp (Text.isAlphanumeric_of_isLineBreak ends)

private theorem isLine_encode (text : Text) : IsLine (Text.Quoted.encode text) := by
  refine Text.isLine_of_forall (fun c => Text.Quoted.isUnprintable_of_mem_encode) ?_
  intro c ends
  rw [Text.isUnprintable_of_isLineBreak ends]
  exact Bool.noConfusion

omit [Unicode.Database] in
private theorem isLine_parenthesized {text : Text} (whole : IsLine text) :
    IsLine ('(' :: text ++ [')']) := by
  intro c member
  simp only [List.cons_append, List.mem_cons, List.mem_append, List.not_mem_nil, or_false] at member
  rcases member with rfl | inside | rfl
  · decide
  · exact whole c inside
  · decide

theorem isLine_display (known : token.lexeme.IsOrdinary ∨ token.lexeme.IsMarker) :
    IsLine token.display := by
  have label : IsLine token.kind.label.toList :=
    isLine_of_isAlphanumeric fun c => Kind.isAlphanumeric_of_mem_label
  have shown : IsLine token.payload := by
    unfold payload
    split
    case isTrue => exact isLine_parenthesized (isLine_encode token.text)
    case isFalse unquoted =>
      split
      case isTrue shown =>
        rcases known with ordinary | marker
        · exact isLine_parenthesized
            (isLine_of_isAlphanumeric (ordinary.isAlphanumeric shown unquoted))
        · exact (Bool.eq_false_iff.mp marker.hasPayload shown).elim
      case isFalse => exact fun c member => (List.not_mem_nil member).elim
  rw [display_eq]
  intro c member
  rcases List.mem_append.mp member with inside | inside
  · exact label c inside
  · exact shown c inside

private theorem dump_inj {first second : List Token}
    (first_lines : ∀ token ∈ first, IsLine token.display)
    (second_lines : ∀ token ∈ second, IsLine token.display) :
    dump first = dump second ↔ List.Forall₂ ShowsAlike first second := by
  rw [dump_eq, dump_eq]
  constructor
  · intro same
    have forms := congrArg Text.lines same
    rw [Text.lines_flatMap (List.forall_mem_map.mpr first_lines),
      Text.lines_flatMap (List.forall_mem_map.mpr second_lines), ← List.forall₂_eq_eq_eq,
      List.forall₂_map_left_iff, List.forall₂_map_right_iff] at forms
    exact forms.imp fun _ _ => display_eq_iff.mp
  · intro alike
    have forms : first.map display = second.map display := by
      rw [← List.forall₂_eq_eq_eq, List.forall₂_map_left_iff, List.forall₂_map_right_iff]
      exact alike.imp fun _ _ => display_eq_iff.mpr
    rw [forms]

private theorem isAlpha_head?_dump (tokens : List Token) :
    ∀ c ∈ (dump tokens).head?, c.isAlpha = true := by
  cases tokens with
  | nil => simp [dump]
  | cons token tokens =>
    have some_letter : token.kind.label.toList ≠ [] := by
      cases token.kind <;> decide
    obtain ⟨letter, letters, label⟩ := List.exists_cons_of_ne_nil some_letter
    intro c first
    rw [dump, List.flatMap_cons, display_eq, label] at first
    obtain rfl := Option.some.inj first
    exact (Kind.isAlpha_of_mem_label (label ▸ List.mem_cons_self)).2

theorem dump_ne_dump (tokens : List Token) (error : LexError) : dump tokens ≠ error.dump := by
  intro same
  have first : '<' ∈ (dump tokens).head? := by
    rw [same]
    rfl
  exact absurd (isAlpha_head?_dump tokens '<' first) (by decide)

end Token

namespace Lexer

open Token (display dump ShowsAlike)

variable {source : Text} {file : Option Text} {settings : Settings} {tokens : List Token}

private theorem isLine_of_accepted
    (accepted : (lex source file settings).outcome = .tokens tokens) :
    ∀ token ∈ tokens, IsLine token.display := by
  rw [outcome_lex] at accepted
  intro token member
  have listed : token.lexeme ∈ tokens.map Token.lexeme := List.mem_map_of_mem member
  refine Token.isLine_display ?_
  rcases Reading.wellFormed_of_tokens accepted with
    none_found | ⟨earlier, marker, split, ordinary, last⟩
  · rw [none_found] at listed
    exact (List.not_mem_nil listed).elim
  · rw [split] at listed
    rcases List.mem_append.mp listed with before | final
    · exact Or.inl (ordinary _ before)
    · exact Or.inr (List.mem_singleton.mp final ▸ last)

/-- The dump of an accepted source is the dump of another exactly if their tokens agree in number,
in kinds and in the texts that are shown. It has one line to a token, its display form, and no line
break but those between the lines and at the end; and it is not the dump of an error. -/
theorem lex_dump_unambiguous (accepted : (lex source file settings).outcome = .tokens tokens) :
    (∀ other other_file other_settings others,
      (lex other other_file other_settings).outcome = .tokens others →
        (dump tokens = dump others ↔ List.Forall₂ ShowsAlike tokens others)) ∧
    Text.lines (dump tokens) = tokens.map display ∧
    (dump tokens).count '\n' = tokens.length ∧
    (∀ c ∈ dump tokens, isLineBreak c = true → c = '\n') ∧
    ∀ error : LexError, dump tokens ≠ error.dump := by
  have whole := isLine_of_accepted accepted
  have forms : ∀ form ∈ tokens.map display, IsLine form := List.forall_mem_map.mpr whole
  refine ⟨?_, ?_, ?_, ?_, Token.dump_ne_dump tokens⟩
  · intro other other_file other_settings others other_accepted
    exact Token.dump_inj whole (isLine_of_accepted other_accepted)
  · rw [Token.dump_eq, Text.lines_flatMap forms]
  · rw [Token.dump_eq, Text.count_flatMap forms, List.length_map]
  · intro c member
    rw [Token.dump_eq] at member
    exact Text.eq_of_mem_flatMap forms member

end Lexer

end

theorem Lexer.lex_dump_unambiguous_strings :
    ∃ broken escaped spelled,
      (lex "fun \"a\nb\" !".toList none .default).outcome = .tokens broken ∧
      (lex "fun \"a\\nb\" !".toList none .default).outcome = .tokens escaped ∧
      (lex "f \"a\nb\" !!".toList none .default).outcome = .tokens spelled ∧
      Token.dump broken ≠ Token.dump escaped ∧ Token.dump broken = Token.dump spelled := by
  have first : (lex "fun \"a\nb\" !".toList none .default).outcome =
      .tokens [⟨.functionDeclaration, "fun".toList, ⟨1, 4, none⟩⟩,
        ⟨.stringLiteral, "a\nb".toList, ⟨2, 2, none⟩⟩, ⟨.endOfLine, "!".toList, ⟨2, 5, none⟩⟩] := by
    decide +kernel
  have second : (lex "fun \"a\\nb\" !".toList none .default).outcome =
      .tokens [⟨.functionDeclaration, "fun".toList, ⟨1, 4, none⟩⟩,
        ⟨.stringLiteral, "a\\nb".toList, ⟨1, 10, none⟩⟩,
        ⟨.endOfLine, "!".toList, ⟨1, 13, none⟩⟩] := by
    decide +kernel
  have third : (lex "f \"a\nb\" !!".toList none .default).outcome =
      .tokens [⟨.functionDeclaration, "f".toList, ⟨1, 2, none⟩⟩,
        ⟨.stringLiteral, "a\nb".toList, ⟨2, 2, none⟩⟩,
        ⟨.endOfLine, "!!".toList, ⟨2, 6, none⟩⟩] := by
    decide +kernel
  obtain ⟨compared, -⟩ := lex_dump_unambiguous first
  refine ⟨_, _, _, first, second, third, ?_, ?_⟩
  · intro same
    have alike := (compared _ _ _ _ second).mp same
    cases alike with
    | cons _ rest =>
      cases rest with
      | cons strings _ => exact absurd (strings.text rfl) (by decide)
  · exact (compared _ _ _ _ third).mpr
      (.cons ⟨rfl, nofun⟩ (.cons ⟨rfl, fun _ => rfl⟩ (.cons ⟨rfl, nofun⟩ .nil)))

end LineMark
