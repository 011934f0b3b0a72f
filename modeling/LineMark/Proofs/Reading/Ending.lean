import LineMark.Proofs.Reading.Prefix

/-!
How the readings of whole sources end. A reading goes on to the end of its source, or a marker or
one of two faults ends it, and which of these it is shows in its outcome.
-/

set_option autoImplicit false
set_option relaxedAutoImplicit false

namespace LineMark

variable [Unicode.Database]

theorem Piece.Stands.fault_eq {mode : Mode} {head : Char} {tail : Text} {fault : Fault}
    {place : Nat} (stands : Stands mode head tail (.fault fault place)) :
    fault = .unterminatedString ∨ fault = .deadCode := by
  cases stands with
  | openString => exact Or.inl rfl
  | strictFault | debugFault => exact Or.inr rfl

namespace Reading

variable {mode : Mode} {source : Text} {file : Option Text}

theorem tokens_append_of_split {earlier later : Reading}
    (split : ofSource mode source = earlier ++ later) (more : Text) (file : Option Text) :
    tokens (source ++ more) file earlier = tokens source file earlier := by
  refine tokens_append_source (fun entry member place placed => ?_) more file
  have listed : entry ∈ ofSource mode source := by
    rw [split]
    exact List.mem_append_left later member
  have bound := place_le_of_mem_ofText listed placed
  omega

theorem tokens_ofSource_append (mode : Mode) (source more : Text) (file : Option Text) :
    tokens (source ++ more) file (ofSource mode source) =
      tokens source file (ofSource mode source) :=
  tokens_append_of_split (List.append_nil _).symm more file

theorem ofSource_cases (mode : Mode) (source : Text) :
    (ofSource mode source).Unended ∨
      (∃ earlier offset kind text place,
        ofSource mode source = earlier ++ [(offset, .marker kind text place)]) ∨
      ∃ earlier offset fault place,
        ofSource mode source = earlier ++ [(offset, .fault fault place)] ∧
          (fault = .unterminatedString ∨ fault = .deadCode) := by
  rcases unended_or_ends mode 0 source with unended | ⟨earlier, ⟨offset, piece⟩, split, ends⟩
  · exact Or.inl unended
  · cases piece with
    | gap | lexeme => cases ends
    | marker kind text place => exact Or.inr (Or.inl ⟨_, _, _, _, _, split⟩)
    | fault fault place =>
      obtain ⟨before, head, tail, -, -, stands, -⟩ := exists_split split
      exact Or.inr (Or.inr ⟨_, _, _, _, split, stands.fault_eq⟩)

theorem outcome_cases (mode : Mode) (source : Text) (file : Option Text) :
    (∃ tokens, (ofSource mode source).outcome source file = .tokens tokens) ∨
      ∃ fault ∈ [Fault.unterminatedString, .unterminatedLine, .deadCode], ∃ place,
        (ofSource mode source).outcome source file = .error ⟨fault, place⟩ := by
  rcases ofSource_cases mode source with
    unended | ⟨earlier, offset, kind, text, place, split⟩ |
      ⟨earlier, offset, fault, place, split, known⟩
  · rw [outcome_of_unended unended]
    split
    · exact Or.inl ⟨[], rfl⟩
    · exact Or.inr ⟨.unterminatedLine, by simp, _, rfl⟩
  · rw [split, outcome_append_marker]
    exact Or.inl ⟨_, rfl⟩
  · rw [split, outcome_append_fault]
    exact Or.inr ⟨fault, by rcases known with rfl | rfl <;> simp, _, rfl⟩

theorem unended_of_tokens_nil
    (answered : (ofSource mode source).outcome source file = .tokens []) :
    (ofSource mode source).Unended := by
  rcases ofSource_cases mode source with
    unended | ⟨earlier, offset, kind, text, place, split⟩ |
      ⟨earlier, offset, fault, place, split, -⟩
  · exact unended
  · rw [split, outcome_append_marker] at answered
    simp at answered
  · rw [split, outcome_append_fault] at answered
    cases answered

theorem cases_of_error {error : LexError}
    (answered : (ofSource mode source).outcome source file = .error error) :
    (error = ⟨.unterminatedLine, .ofOffset source source.length file⟩ ∧
        (ofSource mode source).Unended) ∨
      ∃ earlier offset fault place,
        ofSource mode source = earlier ++ [(offset, .fault fault place)] ∧
          (fault = .unterminatedString ∨ fault = .deadCode) ∧
          error = ⟨fault, .ofOffset source (offset + place : Nat) file⟩ := by
  rcases ofSource_cases mode source with
    unended | ⟨earlier, offset, kind, text, place, split⟩ |
      ⟨earlier, offset, fault, place, split, known⟩
  · rw [outcome_of_unended unended] at answered
    split at answered
    · cases answered
    · exact Or.inl ⟨(Outcome.error.inj answered).symm, unended⟩
  · rw [split, outcome_append_marker] at answered
    cases answered
  · rw [split, outcome_append_fault] at answered
    exact Or.inr ⟨earlier, offset, fault, place, split, known, (Outcome.error.inj answered).symm⟩

theorem split_of_error {fault : Fault} {place : Location}
    (known : fault ≠ .unterminatedLine)
    (answered : (ofSource mode source).outcome source file = .error ⟨fault, place⟩) :
    ∃ earlier offset ends, ofSource mode source = earlier ++ [(offset, .fault fault ends)] ∧
      place = .ofOffset source (offset + ends : Nat) file := by
  rcases cases_of_error answered with ⟨same, -⟩ | ⟨earlier, offset, found, ends, split, -, same⟩
  · exact (known (LexError.mk.inj same).1).elim
  · obtain ⟨rfl, rfl⟩ := LexError.mk.inj same
    exact ⟨earlier, offset, ends, split, rfl⟩

theorem unended_of_unterminatedLine {place : Location}
    (answered : (ofSource mode source).outcome source file = .error ⟨.unterminatedLine, place⟩) :
    (ofSource mode source).Unended := by
  rcases cases_of_error answered with ⟨-, unended⟩ | ⟨earlier, offset, fault, ends, -, known, same⟩
  · exact unended
  · obtain ⟨rfl, -⟩ := LexError.mk.inj same
    rcases known with line | line <;> cases line

theorem unended_ofSource_iff :
    (ofSource mode source).Unended ↔
      (ofSource mode source).outcome source file = .tokens [] ∨
        ∃ place,
          (ofSource mode source).outcome source file = .error ⟨.unterminatedLine, place⟩ := by
  constructor
  · intro unended
    rw [outcome_of_unended unended]
    split
    · exact Or.inl rfl
    · exact Or.inr ⟨_, rfl⟩
  · rintro (empty | ⟨place, answered⟩)
    · exact unended_of_tokens_nil empty
    · exact unended_of_unterminatedLine answered

theorem exists_marker_split {found : List Token} {marker : Token}
    (answered : (ofSource mode source).outcome source file = .tokens (found ++ [marker])) :
    ∃ before head tail place, source = before ++ head :: tail ∧
      Piece.Stands mode head tail (.marker marker.kind marker.text place) ∧
      (before.length, .marker marker.kind marker.text place) ∈ ofSource mode source ∧
      marker.location = .ofOffset source (before.length + place : Nat) file ∧
      ∀ other kind text stop, Piece.Stands mode head other (.marker kind text stop) →
        (ofSource mode (before ++ head :: other)).outcome (before ++ head :: other) file =
          .tokens (found ++ [⟨kind, text,
            .ofOffset (before ++ head :: other) (before.length + stop : Nat) file⟩]) := by
  rcases ofSource_cases mode source with
    unended | ⟨earlier, offset, kind, text, place, split⟩ |
      ⟨earlier, offset, fault, place, split, -⟩
  · rw [outcome_of_unended unended] at answered
    split at answered
    · simp at answered
    · cases answered
  · rw [split, outcome_append_marker] at answered
    obtain ⟨rfl, last⟩ := List.append_inj' (Outcome.tokens.inj answered) rfl
    obtain rfl := List.singleton_inj.mp last
    obtain ⟨before, head, tail, rfl, there, stands, same⟩ := exists_split split
    obtain rfl : offset = before.length := there.trans (Nat.zero_add _)
    refine ⟨before, head, tail, place, rfl, stands, ?_, rfl, ?_⟩
    · simp [split]
    · intro other kind text stop again
      have placed := fun rest => tokens_append_of_split (same []) rest file
      simp only [List.append_assoc, List.singleton_append] at placed
      have read := same other
      rw [ofText_of_end again rfl] at read
      rw [ofSource, read, outcome_append_marker, placed other, placed tail]
  · rw [split, outcome_append_fault] at answered
    cases answered

end Reading

end LineMark
