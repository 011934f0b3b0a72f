import LineMark.Proofs.Lexer
import LineMark.Proofs.Reading.Prefix

/-!
The order of the places of tokens. Words stand behind their last character, and so do integers after
which no character is passed over; a sign of one character right behind them stands at the same
place, and no other two tokens of a source stand at one place.
-/

set_option autoImplicit false
set_option relaxedAutoImplicit false

namespace LineMark

open Token (CharClass)

/-- The first token is a word, or an integer after which no character is passed over, the second is
a sign of one character, and the source has the second right behind the first, where both stand. -/
structure Token.Touches (mode : Mode) (source : Text) (file : Option Text) (first second : Token) :
    Prop where
  behind : first.kind.isWord = true ∨
    mode.skipAfterInteger = false ∧ first.kind = .intLiteral
  sign : second.kind = .equals ∨ second.kind ∈ CharClass.punctuationKinds.map Prod.snd
  adjacent : ∃ before after, source = before ++ (first.text ++ (second.text ++ after)) ∧
    first.location = .ofOffset source (before.length + first.text.length : Nat) file

theorem Token.Kind.plain_of_sign {kind : Token.Kind}
    (sign : kind = .equals ∨ kind ∈ CharClass.punctuationKinds.map Prod.snd) :
    kind.isWord = false ∧ kind ≠ .intLiteral ∧ kind.isEndOfLine = false := by
  rcases sign with rfl | listed
  · decide
  · obtain ⟨entry, member, rfl⟩ := List.mem_map.mp listed
    obtain ⟨open_end, plain, others⟩ := CharClass.kind_of_punctuation member
    simp only [List.mem_cons, List.not_mem_nil, or_false, not_or] at others
    exact ⟨plain, others.2.1, open_end⟩

variable [Unicode.Database]

namespace Piece.Stands

variable {mode : Mode} {head : Char} {tail : Text} {piece : Piece}

theorem place_lexeme {kind : Token.Kind} {text : Text} {place width : Nat}
    (stands : Stands mode head tail (.lexeme kind text place width)) :
    place ≤ width ∨
      place = width + 1 ∧ text = head :: tail.take width ∧
        (kind.isWord = true ∨
          kind = .intLiteral ∧ (mode.skipAfterInteger = true → width = tail.length)) := by
  cases stands with
  | string | punctuation | arrow | equals | integerSkip => exact Or.inl (Nat.le_refl _)
  | integer numeric cut keeps =>
    refine Or.inr ⟨rfl, by rw [List.take_left], Or.inr ⟨rfl, fun skips => ?_⟩⟩
    rw [keeps skips, List.append_nil]
  | word plain letter cut =>
    exact Or.inr ⟨rfl, by rw [List.take_left], Or.inl (Token.Word.isWord_kind _)⟩

theorem of_place_zero (stands : Stands mode head tail piece) (here : piece.place? = some 0) :
    ∃ kind, piece = .lexeme kind [head] 0 0 ∧
      (kind = .equals ∨ kind ∈ CharClass.punctuationKinds.map Prod.snd) := by
  cases stands with
  | punctuation member => exact ⟨_, rfl, Or.inr (List.mem_map.mpr ⟨_, member, rfl⟩)⟩
  | equals => exact ⟨_, rfl, Or.inl rfl⟩
  | _ => simp [place?] at here

end Piece.Stands

namespace Reading

variable {mode : Mode} {source : Text} {file : Option Text}

theorem pairwise_ofText (mode : Mode) (offset : Nat) (text : Text) :
    (ofText mode offset text).Pairwise fun earlier later =>
      ∃ width, earlier.2.width? = some width ∧ earlier.1 + width + 1 ≤ later.1 := by
  induction offset, text using induction mode with
  | nil offset =>
    rw [ofText_nil]
    exact .nil
  | step offset head tail piece width stands goes ih =>
    rw [ofText_of_width stands goes]
    refine .cons ?_ ih
    intro later member
    obtain ⟨before, _, _, -, there, -⟩ := exists_cut_of_mem member
    refine ⟨width, goes, ?_⟩
    change offset + width + 1 ≤ later.1
    omega
  | stop offset head tail piece stands ends =>
    rw [ofText_of_end stands ends]
    exact List.pairwise_singleton _ _

omit [Unicode.Database] in
private theorem location_of_token? {entry : Nat × Piece} {token : Token}
    (found : token? source file entry = some token) :
    ∃ place, entry.2.place? = some place ∧
      token.location = .ofOffset source (entry.1 + place : Nat) file := by
  obtain ⟨offset, piece⟩ := entry
  cases piece with
  | gap | fault => cases found
  | lexeme kind text place | marker kind text place =>
    obtain rfl := Option.some.inj found
    exact ⟨place, rfl, rfl⟩

private theorem touches_of_place_eq {start width place : Nat} {kind : Token.Kind} {text : Text}
    {later : Nat × Piece} {second : Token}
    (member : (start, Piece.lexeme kind text place width) ∈ ofSource mode source)
    (later_member : later ∈ ofSource mode source) (found : token? source file later = some second)
    (apart : start + width + 1 ≤ later.1) {later_place : Nat}
    (placed : later.2.place? = some later_place) (same : start + place = later.1 + later_place) :
    Token.Touches mode source file ⟨kind, text, .ofOffset source (start + place : Nat) file⟩
      second := by
  obtain ⟨before, head, tail, cut, there, stands⟩ := exists_cut_of_mem member
  obtain ⟨later_before, sign, after, later_cut, later_there, later_stands⟩ :=
    exists_cut_of_mem later_member
  have inside := stands.width_le rfl
  simp only [Nat.zero_add] at there later_there
  rcases stands.place_lexeme with within | ⟨behind, spelled, classes⟩
  · omega
  obtain rfl : later_place = 0 := by omega
  obtain ⟨later_kind, later_piece, is_sign⟩ := later_stands.of_place_zero placed
  obtain ⟨offset, piece⟩ := later
  subst later_piece
  obtain rfl := Option.some.inj found
  -- The second token begins where the characters of the first end.
  have joined : (before ++ text) ++ tail.drop width = later_before ++ sign :: after := by
    rw [← later_cut, cut, spelled, List.append_assoc, List.cons_append, List.take_append_drop]
  have text_length : text.length = width + 1 := by
    rw [spelled, List.length_cons, List.length_take_of_le inside]
  obtain ⟨rfl, rest⟩ := List.append_inj joined (by rw [List.length_append]; omega)
  refine ⟨?_, is_sign, before, after, ?_, ?_⟩
  · rcases classes with word | ⟨integer, takes⟩
    · exact Or.inl word
    · refine Or.inr ⟨?_, integer⟩
      rw [Bool.eq_false_iff]
      intro skips
      have none_left : tail.drop width = [] := by rw [takes skips, List.drop_length]
      rw [none_left] at rest
      cases rest
  · rw [later_cut, List.append_assoc]
    rfl
  · change Location.ofOffset source (start + place : Nat) file = _
    congr 2
    change start + place = before.length + text.length
    omega

theorem pairwise_tokens (mode : Mode) (source : Text) (file : Option Text) :
    (tokens source file (ofSource mode source)).Pairwise fun first second =>
      first.location.position < second.location.position ∨
        first.location = second.location ∧ Token.Touches mode source file first second := by
  rw [tokens, List.pairwise_filterMap]
  refine (pairwise_ofText mode 0 source).imp_of_mem ?_
  rintro ⟨start, piece⟩ later member later_member ⟨width, goes, apart⟩ first here second there
  obtain ⟨later_place, placed, located⟩ := location_of_token? there
  have bound := place_le_of_mem_ofText later_member placed
  cases piece with
  | gap => cases here
  | lexeme kind text place taken =>
    obtain rfl := Option.some.inj here
    obtain rfl : taken = width := Option.some.inj goes
    obtain ⟨_, _, tail, -, -, stands⟩ := exists_cut_of_mem member
    change start + taken + 1 ≤ later.1 at apart
    have before : start + place ≤ later.1 + later_place := by
      rcases stands.place_lexeme with within | ⟨behind, -, -⟩ <;> omega
    rcases Nat.lt_or_eq_of_le before with strictly | same
    · left
      rw [located]
      exact Location.position_lt_position strictly (by omega) file
    · right
      refine ⟨?_, touches_of_place_eq member later_member there apart placed same⟩
      rw [located, ← same]
  | marker | fault => cases goes

end Reading

omit [Unicode.Database] in
/-- No three tokens share a place, for the second of them would have to be a sign and to stand
behind its last character. -/
private theorem countP_position_le {mode : Mode} {source : Text} {file : Option Text}
    {found : List Token}
    (pairwise : found.Pairwise fun first second =>
      first.location.position < second.location.position ∨
        first.location = second.location ∧ Token.Touches mode source file first second)
    (position : ℤ ×ₗ ℤ) :
    found.countP (fun token => token.location.position = position) ≤ 2 := by
  have there : ∀ token ∈ found.filter (fun token => token.location.position = position),
      token.location.position = position := by simp
  have apart := pairwise.filter (fun token => decide (token.location.position = position))
  rw [List.countP_eq_length_filter]
  generalize found.filter (fun token => token.location.position = position) = shared
    at there apart ⊢
  match shared, there, apart with
  | [], _, _ | [_], _, _ | [_, _], _, _ => simp
  | first :: second :: third :: rest, there, apart =>
    have second_there := there second (by simp)
    rcases (List.pairwise_cons.mp apart).1 second (by simp) with before | ⟨-, touches⟩
    · rw [there first (by simp), second_there] at before
      exact (lt_irrefl _ before).elim
    · obtain ⟨plain, no_integer, -⟩ := Token.Kind.plain_of_sign touches.sign
      rcases (List.pairwise_cons.mp (List.pairwise_cons.mp apart).2).1 third (by simp) with
        before | ⟨-, further⟩
      · rw [second_there, there third (by simp)] at before
        exact (lt_irrefl _ before).elim
      · rcases further.behind with word | ⟨-, integer⟩
        · rw [plain] at word
          cases word
        · exact (no_integer integer).elim

namespace Lexer

/-- The tokens that a lexer has found, whether or not it succeeds, stand in the order of the source.
Only a word, or an integer after which no character is passed over, shares its place, and only with
a sign of one character right behind it; no three tokens share a place, and a marker shares its
place with no token before it. -/
theorem lex_places_ordered (source : Text) (file : Option Text) (settings : Settings) :
    ((lex source file settings).found.Pairwise fun first second =>
      first.location.position ≤ second.location.position) ∧
    ((lex source file settings).found.Pairwise fun first second =>
      first.location.position = second.location.position →
        Token.Touches settings.mode source file first second) ∧
    (∀ position, (lex source file settings).found.countP
      (fun token => token.location.position = position) ≤ 2) ∧
    ∀ earlier marker later, (lex source file settings).found = earlier ++ marker :: later →
      marker.kind.isEndOfLine = true →
        ∀ token ∈ earlier, token.location.position < marker.location.position := by
  have pairwise := Reading.pairwise_tokens settings.mode source file
  rw [← found_lex] at pairwise
  refine ⟨?_, ?_, ?_, ?_⟩
  · refine pairwise.imp ?_
    rintro first second (before | ⟨same, -⟩)
    · exact le_of_lt before
    · exact le_of_eq (congrArg Location.position same)
  · refine pairwise.imp ?_
    rintro first second (before | ⟨-, touches⟩) same
    · exact (ne_of_lt before same).elim
    · exact touches
  · exact countP_position_le pairwise
  · intro earlier marker later split ends token member
    rw [split] at pairwise
    have stand := (List.pairwise_append.mp pairwise).2.2 token member marker (by simp)
    rcases stand with before | ⟨-, touches⟩
    · exact before
    · rw [(Token.Kind.plain_of_sign touches.sign).2.2] at ends
      cases ends

end Lexer

end LineMark
