import LineMark.Proofs.Lexer
import LineMark.Proofs.Reading.Prefix
import LineMark.Unicode.Tables

/-!
The stretches of a source that its tokens come from. Each token is spelled by a span of the source,
the spans stand in order, and between them is nothing but what a scan may pass over: blanks, and a
single character after an integer where the mode says so.
-/

set_option autoImplicit false
set_option relaxedAutoImplicit false

namespace LineMark

open Text (IsRun)
open Token (CharClass)
open Unicode (isWhitespace isNumeric isAlphanumeric)

structure Span where
  start : Nat
  stop : Nat

namespace Lexeme

/-- The characters that a token is read from. White space after a marker belongs to it, but not to
its text. -/
inductive ReadFrom (mode : Mode) : Lexeme → Text → Prop
  | ordinary {lexeme : Lexeme} :
      lexeme.1.isEndOfLine = false → ReadFrom mode lexeme lexeme.spelling
  | strict {blanks rest : Text} :
      IsRun isWhitespace blanks rest →
      ReadFrom mode (.endOfLine, '!' :: rest) ('!' :: blanks ++ rest)
  | debug {blanks line : Text} :
      IsRun (Piece.isMarkerBlank mode) blanks line → line = [] ∨ line = ['\n'] →
      ReadFrom mode (.debugEndOfLine, "?".toList) ('?' :: blanks ++ line)

theorem readFrom_text {mode : Mode} {kind : Token.Kind} (open_end : kind.isEndOfLine = false)
    (plain : kind ≠ .stringLiteral) (text : Text) : ReadFrom mode (kind, text) text := by
  have spelled : spelling (kind, text) = text := if_neg plain
  have read : ReadFrom mode (kind, text) (spelling (kind, text)) := .ordinary open_end
  rwa [spelled] at read

variable [Unicode.Database]

/-- The characters that a token is read from and the text after them, which does not lengthen the
token. -/
structure Spells (mode : Mode) (lexeme : Lexeme) (written rest : Text) : Prop where
  read : ReadFrom mode lexeme written
  word : lexeme.1.isWord = true → ∀ c ∈ rest.head?, isAlphanumeric c = false
  integer : lexeme.1 = .intLiteral → ∀ c ∈ rest.head?, isNumeric c = false
  equals : lexeme.1 = .equals → rest.head? ≠ some '>'
  strict : lexeme.1 = .endOfLine → rest = []

end Lexeme

section

variable [Unicode.Database]

/-- The spans of the tokens that are read from a source, from an offset on. -/
structure IsCut (mode : Mode) (source : Text) (floor : Nat) (cut : List (Span × Token)) :
    Prop where
  inside : ∀ entry ∈ cut,
    floor ≤ entry.1.start ∧ entry.1.start < entry.1.stop ∧ entry.1.stop ≤ source.length
  ordered : cut.Pairwise fun earlier later => earlier.1.stop ≤ later.1.start
  spells : ∀ entry ∈ cut, Lexeme.Spells mode entry.2.lexeme
    (source.slice entry.1.start entry.1.stop) (source.suffixFrom entry.1.stop)
  swallowed : mode.skipAfterInteger = true → ∀ entry ∈ cut, entry.2.kind = .intLiteral →
    ∀ other ∈ cut, other.1.start ≠ entry.1.stop
  gaps : ∀ place c, floor ≤ place → source[place]? = some c →
    (∃ entry ∈ cut, place < entry.1.start) →
    (∀ entry ∈ cut, place < entry.1.start ∨ entry.1.stop ≤ place) →
    isWhitespace c = true ∨ CharClass.ofChar c = .skip ∨
      mode.skipAfterInteger = true ∧ ∃ entry ∈ cut, entry.2.kind = .intLiteral ∧
        entry.1.stop = place

namespace IsCut

variable {mode : Mode} {source : Text} {floor : Nat} {cut : List (Span × Token)}

theorem nil (mode : Mode) (source : Text) (floor : Nat) : IsCut mode source floor [] where
  inside := by simp
  ordered := .nil
  spells := by simp
  swallowed := by simp
  gaps := by simp

theorem gap {c : Char} (here : source[floor]? = some c)
    (blank : isWhitespace c = true ∨ CharClass.ofChar c = .skip)
    (rest : IsCut mode source (floor + 1) cut) : IsCut mode source floor cut where
  inside entry member := by
    have bounds := rest.inside entry member
    omega
  ordered := rest.ordered
  spells := rest.spells
  swallowed := rest.swallowed
  gaps place other above there before outside := by
    rcases Nat.eq_or_lt_of_le above with rfl | later
    · obtain rfl := Option.some.inj (here.symm.trans there)
      rcases blank with white | skipped
      · exact Or.inl white
      · exact Or.inr (Or.inl skipped)
    · exact rest.gaps place other later there before outside

theorem cons {span : Span} {token : Token} {next : Nat}
    (bounds : span.start < span.stop ∧ span.stop ≤ source.length)
    (spells : Lexeme.Spells mode token.lexeme (source.slice span.start span.stop)
      (source.suffixFrom span.stop))
    (goes : next = span.stop ∨
      next = span.stop + 1 ∧ token.kind = .intLiteral ∧ mode.skipAfterInteger = true)
    (apart : mode.skipAfterInteger = true → token.kind = .intLiteral →
      ∀ entry ∈ cut, entry.1.start ≠ span.stop)
    (rest : IsCut mode source next cut) : IsCut mode source span.start ((span, token) :: cut) where
  inside := by
    intro entry member
    rcases List.mem_cons.mp member with rfl | later
    · exact ⟨Nat.le_refl _, bounds⟩
    · have := rest.inside entry later
      omega
  ordered := by
    refine List.pairwise_cons.mpr ⟨fun entry later => ?_, rest.ordered⟩
    have := rest.inside entry later
    change span.stop ≤ entry.1.start
    omega
  spells := List.forall_mem_cons.mpr ⟨spells, rest.spells⟩
  swallowed := by
    intro skips entry member integer other other_member
    rcases List.mem_cons.mp member with rfl | later
    · rcases List.mem_cons.mp other_member with rfl | other_later
      · exact Nat.ne_of_lt bounds.1
      · exact apart skips integer other other_later
    · rcases List.mem_cons.mp other_member with rfl | other_later
      · have := rest.inside entry later
        change span.start ≠ entry.1.stop
        omega
      · exact rest.swallowed skips entry later integer other other_later
  gaps := by
    intro place c above there before outside
    have beyond : span.stop ≤ place := by
      rcases outside (span, token) (by simp) with early | late
      · exact absurd above (Nat.not_le_of_lt early)
      · exact late
    -- Only a later span can begin beyond a place that is not before this one.
    have before_later : ∃ entry ∈ cut, place < entry.1.start := by
      obtain ⟨entry, member, early⟩ := before
      rcases List.mem_cons.mp member with rfl | later
      · exact absurd above (Nat.not_le_of_lt early)
      · exact ⟨entry, later, early⟩
    by_cases reached : next ≤ place
    · have outside_later : ∀ entry ∈ cut, place < entry.1.start ∨ entry.1.stop ≤ place :=
        fun entry later => outside entry (List.mem_cons_of_mem _ later)
      rcases rest.gaps place c reached there before_later outside_later with
        white | skipped | ⟨skips, entry, later, integer, ends⟩
      · exact Or.inl white
      · exact Or.inr (Or.inl skipped)
      · exact Or.inr (Or.inr ⟨skips, entry, List.mem_cons_of_mem _ later, integer, ends⟩)
    · obtain ⟨taken, integer, skips⟩ := goes.resolve_left (by omega)
      have ends : span.stop = place := by omega
      exact Or.inr (Or.inr ⟨skips, (span, token), by simp, integer, ends⟩)

end IsCut

namespace Piece.Stands

open Lexeme (Spells readFrom_text)

variable {mode : Mode} {head : Char} {tail : Text} {kind : Token.Kind} {text rest : Text}

private theorem spells_word (word : Text) (stops : ∀ c ∈ rest.head?, isAlphanumeric c = false) :
    Spells mode (Token.Word.kind word, word) word rest := by
  have is_word := Token.Word.isWord_kind word
  have differs : ∀ other : Token.Kind, other.isWord = false → Token.Word.kind word ≠ other :=
    fun other => Token.Kind.ne_of_isWord is_word
  exact {
    read := readFrom_text (Token.Kind.isEndOfLine_of_isWord is_word) (differs _ rfl) word
    word := fun _ => stops
    integer := fun same => (differs _ rfl same).elim
    equals := fun same => (differs _ rfl same).elim
    strict := fun same => (differs _ rfl same).elim }

private theorem spells_punctuation {c : Char} (member : (c, kind) ∈ CharClass.punctuationKinds) :
    Spells mode (kind, [c]) [c] rest := by
  obtain ⟨open_end, plain, others⟩ := CharClass.kind_of_punctuation member
  simp only [List.mem_cons, List.not_mem_nil, or_false, not_or] at others
  obtain ⟨no_string, no_integer, no_equals⟩ := others
  exact {
    read := readFrom_text open_end no_string [c]
    word := fun is_word => (Bool.eq_false_iff.mp plain is_word).elim
    integer := fun same => (no_integer same).elim
    equals := fun same => (no_equals same).elim
    strict := by
      rintro rfl
      cases open_end }

private theorem spells_integer {digits : Text} (cut : IsRun isNumeric digits rest) :
    Spells mode (.intLiteral, head :: digits) (head :: digits) rest where
  read := readFrom_text rfl (by decide) _
  word := nofun
  integer _ := cut.stops
  equals := nofun
  strict := nofun

theorem spells_lexeme {place width : Nat}
    (stands : Stands mode head tail (.lexeme kind text place width)) :
    ∃ written rest, head :: tail = written ++ rest ∧ written ≠ [] ∧
      Spells mode (kind, text) written rest ∧
      (width + 1 = written.length ∧
          (mode.skipAfterInteger = true → kind = .intLiteral → rest = []) ∨
        width = written.length ∧ kind = .intLiteral ∧ mode.skipAfterInteger = true) := by
  cases stands with
  | @string inside rest unquoted =>
    refine ⟨'"' :: text ++ ['"'], rest, by simp, by simp, ?_, Or.inl ⟨by simp, nofun⟩⟩
    exact ⟨.ordinary rfl, nofun, nofun, nofun, nofun⟩
  | punctuation member =>
    refine ⟨[head], tail, rfl, by simp, spells_punctuation member, Or.inl ⟨rfl, ?_⟩⟩
    rintro - rfl
    exact ((CharClass.kind_of_punctuation member).2.2 (by simp)).elim
  | @arrow rest =>
    refine ⟨"=>".toList, rest, rfl, by decide, ?_, Or.inl ⟨rfl, nofun⟩⟩
    exact ⟨readFrom_text rfl (by decide) _, nofun, nofun, nofun, nofun⟩
  | equals other =>
    refine ⟨['='], tail, rfl, by simp, ?_, Or.inl ⟨rfl, nofun⟩⟩
    exact ⟨readFrom_text rfl (by decide) _, nofun, nofun, fun _ => other, nofun⟩
  | @integer _ digits rest numeric cut keeps =>
    exact ⟨head :: digits, rest, rfl, by simp, spells_integer cut,
      Or.inl ⟨rfl, fun skips _ => keeps skips⟩⟩
  | @integerSkip _ swallowed digits rest numeric cut skips =>
    exact ⟨head :: digits, swallowed :: rest, rfl, by simp, spells_integer cut,
      Or.inr ⟨rfl, rfl, skips⟩⟩
  | @word _ letters rest plain letter cut =>
    refine ⟨head :: letters, rest, rfl, by simp, spells_word _ cut.stops, Or.inl ⟨rfl, ?_⟩⟩
    intro skips same
    exact (Token.Kind.ne_of_isWord (Token.Word.isWord_kind _) rfl same).elim

theorem spells_marker {place : Nat} (stands : Stands mode head tail (.marker kind text place)) :
    ∃ written rest, head :: tail = written ++ rest ∧ written ≠ [] ∧
      Spells mode (kind, text) written rest := by
  cases stands with
  | @strictMarker blanks trailers cut allowed =>
    refine ⟨'!' :: blanks ++ trailers, [], by simp, by simp, ?_⟩
    exact ⟨.strict cut, nofun, nofun, nofun, fun _ => rfl⟩
  | debugMarker blanks =>
    have run : IsRun (isMarkerBlank mode) tail [] := ⟨blanks, by simp⟩
    have read := Lexeme.ReadFrom.debug run (Or.inl rfl)
    rw [List.append_nil] at read
    exact ⟨'?' :: tail, [], by simp, by simp, read, nofun, nofun, nofun, nofun⟩
  | @debugLine blanks rest cut =>
    have run : IsRun (isMarkerBlank mode) blanks ['\n'] := cut.of_head?_eq rfl
    refine ⟨'?' :: blanks ++ ['\n'], rest, by simp, by simp, ?_⟩
    exact ⟨.debug run (Or.inr rfl), nofun, nofun, nofun, nofun⟩

end Piece.Stands

namespace IsCut

variable {mode : Mode} {before written rest : Text}

theorem cons_written {token : Token} {next : Nat} {cut : List (Span × Token)}
    (spells : Lexeme.Spells mode token.lexeme written rest) (some_char : written ≠ [])
    (goes : next = before.length + written.length ∨
      next = before.length + written.length + 1 ∧ token.kind = .intLiteral ∧
        mode.skipAfterInteger = true)
    (apart : mode.skipAfterInteger = true → token.kind = .intLiteral →
      ∀ entry ∈ cut, entry.1.start ≠ before.length + written.length)
    (later : IsCut mode (before ++ (written ++ rest)) next cut) :
    IsCut mode (before ++ (written ++ rest)) before.length
      ((⟨before.length, before.length + written.length⟩, token) :: cut) := by
  have positive := List.length_pos_of_ne_nil some_char
  have bounds : before.length < before.length + written.length ∧
      before.length + written.length ≤ (before ++ (written ++ rest)).length := by
    simp only [List.length_append]
    omega
  have same : Lexeme.Spells mode token.lexeme
      (Text.slice (before ++ (written ++ rest)) before.length
        (before.length + written.length : Nat))
      (Text.suffixFrom (before ++ (written ++ rest)) (before.length + written.length : Nat)) := by
    rw [Text.slice_append, Text.suffixFrom_append]
    exact spells
  exact @cons _ mode _ cut ⟨before.length, before.length + written.length⟩ token next bounds same
    goes apart later

end IsCut

namespace Reading

open Piece (Stands)

private theorem isBlank_of_gap {mode : Mode} {head : Char} {tail : Text}
    (stands : Stands mode head tail .gap) :
    isWhitespace head = true ∨ CharClass.ofChar head = .skip := by
  cases stands with
  | blank blank => exact Or.inl blank
  | skipped skipped => exact Or.inr skipped

theorem isCut_ofText (mode : Mode) (file : Option Text) (source : Text) (offset : Nat)
    (text : Text) :
    ∀ before, source = before ++ text → offset = before.length →
      ∃ cut, cut.map Prod.snd = tokens source file (ofText mode offset text) ∧
        IsCut mode source offset cut := by
  induction offset, text using induction mode with
  | nil offset =>
    intro before split there
    exact ⟨[], by rw [ofText_nil]; rfl, .nil mode source offset⟩
  | step offset head tail piece width stands goes ih =>
    rintro before rfl rfl
    have inside := stands.width_le goes
    have taken : (tail.take width).length = width := List.length_take_of_le inside
    obtain ⟨cut, listed, later⟩ := ih (before ++ head :: tail.take width)
      (by rw [List.append_assoc, List.cons_append, List.take_append_drop])
      (by rw [List.length_append, List.length_cons, taken, Nat.add_assoc])
    rw [ofText_of_width stands goes, tokens_cons, ← listed]
    cases piece with
    | gap =>
      cases goes
      exact ⟨cut, rfl, .gap (by simp) (isBlank_of_gap stands) later⟩
    | lexeme kind text place width =>
      cases goes
      obtain ⟨written, rest, whole, some_char, spells, passed⟩ := stands.spells_lexeme
      refine ⟨(⟨before.length, before.length + written.length⟩,
        ⟨kind, text, .ofOffset _ (before.length + place : Nat) file⟩) :: cut, rfl, ?_⟩
      rw [whole] at later ⊢
      refine .cons_written spells some_char ?_ ?_ later
      · rcases passed with ⟨all, -⟩ | ⟨longer, integer, skips⟩
        · exact Or.inl (by omega)
        · exact Or.inr ⟨by omega, integer, skips⟩
      · intro skips integer entry member same
        have bounds := later.inside entry member
        rcases passed with ⟨all, at_end⟩ | ⟨longer, -, -⟩
        -- At the end of the source there is no character to take along, but no later span either.
        · obtain rfl := at_end skips integer
          simp only [List.append_nil, List.length_append] at bounds
          omega
        · omega
    | marker | fault => cases goes
  | stop offset head tail piece stands ends =>
    rintro before rfl rfl
    rw [ofText_of_end stands ends]
    cases piece with
    | gap | lexeme => cases ends
    | marker kind text place =>
      obtain ⟨written, rest, whole, some_char, spells⟩ := stands.spells_marker
      refine ⟨[(⟨before.length, before.length + written.length⟩,
        ⟨kind, text, .ofOffset _ (before.length + place : Nat) file⟩)], rfl, ?_⟩
      rw [whole]
      exact .cons_written spells some_char (Or.inl rfl) (by simp) (.nil mode _ _)
    | fault fault place => exact ⟨[], rfl, .nil mode _ _⟩

end Reading

namespace Lexer

/-- The tokens of an accepted source are cut out of it, each whole and none twice, and nothing else
is left out but what a scan passes over between tokens. -/
theorem lex_cut {source : Text} {file : Option Text} {settings : Settings} {tokens : List Token}
    (accepted : (lex source file settings).outcome = .tokens tokens) :
    ∃ cut, cut.map Prod.snd = tokens ∧ IsCut settings.mode source 0 cut := by
  rw [outcome_lex] at accepted
  obtain ⟨cut, listed, whole⟩ :=
    Reading.isCut_ofText settings.mode file source 0 source [] rfl rfl
  exact ⟨cut, listed.trans (Reading.of_outcome_tokens accepted).1.symm, whole⟩

end Lexer

end

theorem Lexer.lex_cut_swallowed_sign :
    (lex "1=x !".toList none .default).outcome =
        .tokens [⟨.intLiteral, "1".toList, ⟨1, 2, none⟩⟩, ⟨.identifier, "x".toList, ⟨1, 4, none⟩⟩,
          ⟨.endOfLine, "!".toList, ⟨1, 6, none⟩⟩] ∧
      ∃ cut, cut.map Prod.snd =
          [⟨.intLiteral, "1".toList, ⟨1, 2, none⟩⟩, ⟨.identifier, "x".toList, ⟨1, 4, none⟩⟩,
            ⟨.endOfLine, "!".toList, ⟨1, 6, none⟩⟩] ∧
        IsCut Settings.default.mode "1=x !".toList 0 cut :=
  have accepted : (lex "1=x !".toList none .default).outcome =
      .tokens [⟨.intLiteral, "1".toList, ⟨1, 2, none⟩⟩, ⟨.identifier, "x".toList, ⟨1, 4, none⟩⟩,
        ⟨.endOfLine, "!".toList, ⟨1, 6, none⟩⟩] := by decide +kernel
  ⟨accepted, lex_cut accepted⟩

end LineMark
