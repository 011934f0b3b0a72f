import LineMark.Proofs.Lexeme

/-!
Readings piece by piece. `Reading.induction` is the induction over the pieces of a text, and the
lemmas after it tell the tokens, the end and the outcome of a reading from its pieces.
-/

set_option autoImplicit false
set_option relaxedAutoImplicit false

namespace LineMark

def Piece.place? : Piece → Option Nat
  | gap => none
  | lexeme _ _ place _ | marker _ _ place | fault _ place => some place

namespace Reading

variable {source : Text} {file : Option Text}

/-- How a scan stands after a reading, before it is known that the source has ended. -/
def status (source : Text) (file : Option Text) (reading : Reading) : Status :=
  match reading.getLast? with
  | some (offset, .fault fault place) =>
    .failed ⟨fault, .ofOffset source (offset + place : Nat) file⟩
  | some (_, .marker ..) => .terminated
  | _ => .scanning

@[simp] theorem status_nil : status source file [] = .scanning := rfl

theorem status_cons_of_width {piece : Piece} {width : Nat} (goes : piece.width? = some width)
    (offset : Nat) (reading : Reading) :
    status source file ((offset, piece) :: reading) = status source file reading := by
  cases reading with
  | nil =>
    cases piece with
    | gap | lexeme => rfl
    | marker | fault => cases goes
  | cons entry reading => simp only [status, List.getLast?_cons_cons]

theorem tokens_cons (entry : Nat × Piece) (reading : Reading) :
    tokens source file (entry :: reading) =
      (token? source file entry).toList ++ tokens source file reading := by
  simp only [tokens, List.filterMap_cons]
  cases token? source file entry <;> rfl

theorem tokens_append (first second : Reading) :
    tokens source file (first ++ second) =
      tokens source file first ++ tokens source file second :=
  List.filterMap_append

/-- No piece of the reading ends it: it goes on to the end of its text. -/
def Unended (reading : Reading) : Prop :=
  ∀ entry ∈ reading, entry.2.width? ≠ none

theorem outcome_eq (source : Text) (file : Option Text) (reading : Reading) :
    outcome source file reading =
      match status source file reading with
      | .failed error => .error error
      | .terminated => .tokens (tokens source file reading)
      | .scanning =>
        if tokens source file reading = [] then .tokens []
        else .error ⟨.unterminatedLine, .ofOffset source source.length file⟩ := by
  cases last : reading.getLast? with
  | none => simp only [outcome, status, last]
  | some entry =>
    obtain ⟨offset, piece⟩ := entry
    cases piece <;> simp only [outcome, status, last]

theorem outcome_of_unended {reading : Reading} (unended : reading.Unended) :
    outcome source file reading =
      if tokens source file reading = [] then .tokens []
      else .error ⟨.unterminatedLine, .ofOffset source source.length file⟩ := by
  cases last : reading.getLast? with
  | none => simp only [outcome, last]
  | some entry =>
    have goes := unended entry (List.mem_of_getLast? last)
    obtain ⟨offset, piece⟩ := entry
    cases piece with
    | gap | lexeme => simp only [outcome, last]
    | marker | fault => exact (goes rfl).elim

theorem outcome_append_marker (earlier : Reading) (offset : Nat) (kind : Token.Kind) (text : Text)
    (place : Nat) :
    outcome source file (earlier ++ [(offset, .marker kind text place)]) =
      .tokens (tokens source file earlier ++
        [⟨kind, text, .ofOffset source (offset + place : Nat) file⟩]) := by
  simp [outcome, tokens, token?]

theorem outcome_append_fault (earlier : Reading) (offset : Nat) (fault : Fault) (place : Nat) :
    outcome source file (earlier ++ [(offset, .fault fault place)]) =
      .error ⟨fault, .ofOffset source (offset + place : Nat) file⟩ := by
  simp [outcome]

theorem of_outcome_tokens {reading : Reading} {found : List Token}
    (accepted : outcome source file reading = .tokens found) :
    found = tokens source file reading ∧
      (status source file reading = .terminated ∨ found = []) := by
  rw [outcome_eq] at accepted
  cases stood : status source file reading with
  | failed error =>
    rw [stood] at accepted
    cases accepted
  | terminated =>
    rw [stood] at accepted
    exact ⟨(Outcome.tokens.inj accepted).symm, Or.inl rfl⟩
  | scanning =>
    rw [stood] at accepted
    dsimp only at accepted
    split at accepted
    case isTrue none_found =>
      obtain rfl := Outcome.tokens.inj accepted
      exact ⟨none_found.symm, Or.inr rfl⟩
    case isFalse => cases accepted

end Reading

variable [Unicode.Database]

namespace Piece.Stands

variable {mode : Mode} {head : Char} {tail : Text} {piece : Piece}

theorem width_le (stands : Stands mode head tail piece) {width : Nat}
    (goes : piece.width? = some width) : width ≤ tail.length := by
  cases stands <;> simp only [width?, Option.some.injEq, reduceCtorEq] at goes <;> subst goes
  all_goals simp

theorem place_le (stands : Stands mode head tail piece) {place : Nat}
    (placed : piece.place? = some place) : place ≤ tail.length + 1 := by
  cases stands <;> simp only [place?, Option.some.injEq, reduceCtorEq] at placed <;> subst placed
  all_goals simp

end Piece.Stands

namespace Reading

open Piece (Stands)

variable {mode : Mode}

@[simp] theorem ofText_nil (mode : Mode) (offset : Nat) : ofText mode offset [] = [] := by
  rw [ofText]

theorem ofText_of_width {head : Char} {tail : Text} {piece : Piece} {width : Nat}
    (stands : Stands mode head tail piece) (goes : piece.width? = some width) (offset : Nat) :
    ofText mode offset (head :: tail) =
      (offset, piece) :: ofText mode (offset + width + 1) (tail.drop width) := by
  rw [ofText]
  simp only [stands.ofText_eq, goes]

theorem ofText_of_end {head : Char} {tail : Text} {piece : Piece}
    (stands : Stands mode head tail piece) (ends : piece.width? = none) (offset : Nat) :
    ofText mode offset (head :: tail) = [(offset, piece)] := by
  rw [ofText]
  simp only [stands.ofText_eq, ends]

theorem exists_gaps (mode : Mode) {blanks : Text}
    (blank : ∀ c ∈ blanks, Unicode.isWhitespace c = true) (rest : Text) (offset : Nat) :
    ∃ gaps : Reading, gaps.length = blanks.length ∧ (∀ entry ∈ gaps, entry.2 = .gap) ∧
      ofText mode offset (blanks ++ rest) = gaps ++ ofText mode (offset + blanks.length) rest := by
  induction blanks generalizing offset with
  | nil => exact ⟨[], rfl, by simp, rfl⟩
  | cons c blanks ih =>
    have stands : Stands mode c (blanks ++ rest) .gap := .blank (blank c (by simp))
    obtain ⟨gaps, length, all_gaps, read⟩ :=
      ih (fun c member => blank c (by simp [member])) (offset + 1)
    have onward : offset + 1 + blanks.length = offset + (c :: blanks).length := by
      rw [List.length_cons]
      omega
    refine ⟨(offset, .gap) :: gaps, by simp [length], by simpa using all_gaps, ?_⟩
    rw [List.cons_append, ofText_of_width stands rfl, List.drop_zero, Nat.add_zero, read, onward,
      List.cons_append]

/-- Induction over the pieces of a text, the last of which may end the reading. -/
@[elab_as_elim]
theorem induction (mode : Mode) {motive : Nat → Text → Prop} (nil : ∀ offset, motive offset [])
    (step : ∀ offset head tail piece width, Stands mode head tail piece →
      piece.width? = some width → motive (offset + width + 1) (tail.drop width) →
      motive offset (head :: tail))
    (stop : ∀ offset head tail piece, Stands mode head tail piece → piece.width? = none →
      motive offset (head :: tail))
    (offset : Nat) (text : Text) : motive offset text := by
  induction offset, text using ofText.induct mode with
  | case1 offset => exact nil offset
  | case2 offset head tail piece width goes rest =>
    exact step offset head tail piece width (Piece.stands_ofText mode head tail) goes rest
  | case3 offset head tail piece ends =>
    exact stop offset head tail piece (Piece.stands_ofText mode head tail) ends

variable {source : Text} {file : Option Text}

theorem unended_ofText_iff {offset : Nat} {text : Text} :
    (ofText mode offset text).Unended ↔
      status source file (ofText mode offset text) = .scanning := by
  induction offset, text using induction mode with
  | nil offset => simp [Unended]
  | step offset head tail piece width stands goes ih =>
    rw [ofText_of_width stands goes, status_cons_of_width goes, ← ih]
    simp [Unended, goes]
  | stop offset head tail piece stands ends =>
    rw [ofText_of_end stands ends]
    cases piece with
    | gap | lexeme => cases ends
    | marker | fault => simp [Unended, status, Piece.width?]

private theorem isOrdinary_of_mem_token? {head : Char} {tail : Text} {piece : Piece} {width : Nat}
    (stands : Stands mode head tail piece) (goes : piece.width? = some width) {offset : Nat}
    {token : Token} (member : token ∈ (token? source file (offset, piece)).toList) :
    token.lexeme.IsOrdinary := by
  cases piece with
  | gap => simp [token?] at member
  | lexeme kind text place width =>
    obtain rfl : token = ⟨kind, text, _⟩ := by simpa [token?] using member
    exact stands.isOrdinary
  | marker | fault => cases goes

theorem isOrdinary_of_status_ne {offset : Nat} {text : Text}
    (open_end : status source file (ofText mode offset text) ≠ .terminated) :
    ∀ token ∈ tokens source file (ofText mode offset text), token.lexeme.IsOrdinary := by
  induction offset, text using induction mode with
  | nil offset => simp [tokens]
  | step offset head tail piece width stands goes ih =>
    rw [ofText_of_width stands goes] at open_end ⊢
    rw [status_cons_of_width goes] at open_end
    intro token member
    rw [tokens_cons] at member
    rcases List.mem_append.mp member with here | later
    · exact isOrdinary_of_mem_token? stands goes here
    · exact ih open_end token later
  | stop offset head tail piece stands ends =>
    rw [ofText_of_end stands ends] at open_end ⊢
    cases piece with
    | gap | lexeme => cases ends
    | marker kind text place => exact (open_end rfl).elim
    | fault fault place => simp [tokens, token?]

theorem exists_marker_of_status {offset : Nat} {text : Text}
    (ended : status source file (ofText mode offset text) = .terminated) :
    ∃ earlier marker, tokens source file (ofText mode offset text) = earlier ++ [marker] ∧
      (∀ token ∈ earlier, token.lexeme.IsOrdinary) ∧ marker.lexeme.IsMarker := by
  induction offset, text using induction mode with
  | nil offset => simp at ended
  | step offset head tail piece width stands goes ih =>
    rw [ofText_of_width stands goes] at ended ⊢
    rw [status_cons_of_width goes] at ended
    obtain ⟨earlier, marker, split, ordinary, last⟩ := ih ended
    refine ⟨(token? source file (offset, piece)).toList ++ earlier, marker, ?_, ?_, last⟩
    · rw [tokens_cons, split, List.append_assoc]
    · intro token member
      rcases List.mem_append.mp member with here | later
      · exact isOrdinary_of_mem_token? stands goes here
      · exact ordinary token later
  | stop offset head tail piece stands ends =>
    rw [ofText_of_end stands ends] at ended ⊢
    cases piece with
    | gap | lexeme => cases ends
    | marker kind text place =>
      exact ⟨[], ⟨kind, text, .ofOffset source (offset + place : Nat) file⟩, rfl, by simp,
        stands.isMarker⟩
    | fault fault place => cases ended

theorem unended_or_ends (mode : Mode) (offset : Nat) (text : Text) :
    (ofText mode offset text).Unended ∨
      ∃ (earlier : Reading) (last : Nat × Piece), ofText mode offset text = earlier ++ [last] ∧
        last.2.width? = none := by
  induction offset, text using induction mode with
  | nil offset => exact Or.inl (by simp [Unended])
  | step offset head tail piece width stands goes ih =>
    rw [ofText_of_width stands goes]
    rcases ih with unended | ⟨earlier, last, split, ends⟩
    · refine Or.inl fun entry member => ?_
      rcases List.mem_cons.mp member with rfl | later
      · simp [goes]
      · exact unended entry later
    · exact Or.inr ⟨(offset, piece) :: earlier, last, by rw [split, List.cons_append], ends⟩
  | stop offset head tail piece stands ends =>
    rw [ofText_of_end stands ends]
    exact Or.inr ⟨[], (offset, piece), rfl, ends⟩

end Reading

end LineMark
