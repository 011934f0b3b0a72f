import LineMark.Proofs.Location
import LineMark.Proofs.Reading.Basic
import Mathlib.Data.List.Basic

/-!
Readings of longer and of shorter texts. What has been read before a piece depends on no character
after the head of that piece (`Reading.exists_split`), and a space after a text that no piece ends
sets it off from whatever follows (`Reading.ofText_append_space`).
-/

set_option autoImplicit false
set_option relaxedAutoImplicit false

namespace LineMark

open Text (IsRun)

theorem Reading.tokens_append_source {reading : Reading} {source : Text}
    (inside : ∀ entry ∈ reading, ∀ place, entry.2.place? = some place →
      entry.1 + place ≤ source.length) (more : Text) (file : Option Text) :
    tokens (source ++ more) file reading = tokens source file reading := by
  apply List.filterMap_congr
  rintro ⟨offset, piece⟩ member
  cases piece with
  | gap | fault => rfl
  | lexeme | marker =>
    simp only [token?, Location.ofOffset_append (inside _ member _ rfl) more file]

variable [Unicode.Database]

namespace Piece.Stands

variable {mode : Mode} {head : Char} {tail : Text} {piece : Piece} {width : Nat}

theorem of_next (stands : Stands mode head tail piece) (goes : piece.width? = some width)
    {taken rest : Text} {c : Char} (cut : tail = taken ++ c :: rest)
    (length : taken.length = width) (other : Text) :
    Stands mode head (taken ++ c :: other) piece := by
  cases stands with
  | blank blank => exact .blank blank
  | skipped skipped => exact .skipped skipped
  | @string inside after unquoted =>
    cases goes
    rw [List.append_cons] at cut
    obtain ⟨rfl, rfl⟩ := List.append_inj cut (by simp [length])
    rw [← List.append_cons]
    exact .string unquoted
  | openString => cases goes
  | punctuation member => exact .punctuation member
  | @arrow after =>
    cases goes
    obtain ⟨rfl, rfl⟩ := List.append_inj (show ['>'] ++ after = taken ++ c :: rest from cut)
      (by simp [length])
    exact .arrow
  | equals plain =>
    cases goes
    obtain rfl := List.length_eq_zero_iff.mp length
    subst cut
    exact .equals (by simpa using plain)
  | @integer _ digits after numeric run keeps =>
    cases goes
    obtain ⟨rfl, rfl⟩ := List.append_inj cut length.symm
    exact .integer numeric (run.of_head?_eq rfl) fun skips => by cases keeps skips
  | @integerSkip _ swallowed digits after numeric run skips =>
    cases goes
    rw [List.append_cons] at cut
    obtain ⟨rfl, rfl⟩ := List.append_inj cut (by simp [length])
    rw [← List.append_cons]
    exact .integerSkip numeric (run.of_head?_eq rfl) skips
  | @word _ letters after plain letter run =>
    cases goes
    obtain ⟨rfl, rfl⟩ := List.append_inj cut length.symm
    exact .word plain letter (run.of_head?_eq rfl)
  | strictMarker | strictFault | debugMarker | debugLine | debugFault => cases goes

theorem of_head?_eq {taken rest other : Text} (stands : Stands mode head (taken ++ rest) piece)
    (goes : piece.width? = some width) (length : taken.length = width)
    (same : other.head? = rest.head?) : Stands mode head (taken ++ other) piece := by
  cases rest with
  | nil => rwa [List.head?_eq_none_iff.mp same]
  | cons c rest =>
    obtain ⟨more, rfl⟩ := List.head?_eq_some_iff.mp same
    exact stands.of_next goes rfl length more

theorem of_drop (stands : Stands mode head tail piece) (goes : piece.width? = some width)
    {before rest : Text} {c : Char} (cut : tail.drop width = before ++ c :: rest) (other : Text) :
    Stands mode head (tail.take width ++ (before ++ c :: other)) piece := by
  have length : (tail.take width).length = width := List.length_take_of_le (stands.width_le goes)
  have whole : tail = tail.take width ++ (before ++ c :: rest) := by
    rw [← cut, List.take_append_drop]
  cases before with
  | nil => exact stands.of_next goes whole length other
  | cons first before => exact stands.of_next goes whole length (before ++ c :: other)

theorem width?_of_debugMarker (stands : Stands mode '?' tail piece) : piece.width? = none := by
  cases stands with
  | debugMarker | debugLine | debugFault => rfl
  | blank blank => exact absurd blank (by decide)
  | skipped skipped =>
    obtain ⟨plain, -⟩ := Token.CharClass.ofChar_eq_skip_iff.mp skipped
    exact absurd plain (by decide)
  | punctuation member => simp [Token.CharClass.punctuationKinds] at member
  | integer numeric | integerSkip numeric =>
    rw [Unicode.isNumeric_of_ascii (by decide)] at numeric
    exact absurd numeric (by decide)
  | word _ letter =>
    rw [Unicode.isAlphabetic_of_ascii (by decide)] at letter
    exact absurd letter (by decide)

theorem of_width (stands : Stands mode head tail piece) (goes : piece.width? = some width)
    {other : Mode} (alike : other.skipAfterInteger = mode.skipAfterInteger) :
    Stands other head tail piece := by
  refine stands.of_mode (fun _ => alike) ?_
  rintro rfl
  rw [stands.width?_of_debugMarker] at goes
  cases goes

theorem append_space (stands : Stands mode head tail piece) (goes : piece.width? = some width)
    (other : Text) :
    Stands mode head (tail ++ ' ' :: other) piece ∨
      width = tail.length ∧ ∃ kind text place, piece = .lexeme kind text place width ∧
        Stands mode head (tail ++ ' ' :: other) (.lexeme kind text place (width + 1)) := by
  cases stands with
  | blank blank => exact Or.inl (.blank blank)
  | skipped skipped => exact Or.inl (.skipped skipped)
  | string unquoted =>
    rw [List.append_assoc, List.cons_append]
    exact Or.inl (.string unquoted)
  | punctuation member => exact Or.inl (.punctuation member)
  | arrow => exact Or.inl .arrow
  | equals plain =>
    refine Or.inl (.equals ?_)
    cases tail with
    | nil => simp
    | cons c rest => exact plain
  | @integer _ digits rest numeric cut keeps =>
    have apart := cut.append_stop (Unicode.isNumeric_of_ascii (c := ' ') (by decide)) other
    rw [List.append_assoc]
    cases skips : mode.skipAfterInteger with
    | false => exact Or.inl (.integer numeric apart (by simp [skips]))
    | true =>
      obtain rfl := keeps skips
      cases goes
      exact Or.inr ⟨by simp, _, _, _, rfl, .integerSkip numeric apart skips⟩
  | @integerSkip _ swallowed digits rest numeric cut skips =>
    rw [List.append_assoc, List.cons_append]
    exact Or.inl (.integerSkip numeric (cut.of_head?_eq rfl) skips)
  | @word _ letters rest plain letter cut =>
    rw [List.append_assoc]
    have apart := cut.append_stop (Unicode.isAlphanumeric_of_ascii (c := ' ') (by decide)) other
    exact Or.inl (.word plain letter apart)
  | openString | strictMarker | strictFault | debugMarker | debugLine | debugFault => cases goes

end Piece.Stands

namespace Reading

open Piece (Stands)

variable {mode : Mode} {offset : Nat} {text : Text}

theorem exists_split_of_mode {earlier later : Reading} {entry : Nat × Piece}
    (split : ofText mode offset text = earlier ++ entry :: later) :
    ∃ before head tail, text = before ++ head :: tail ∧ entry.1 = offset + before.length ∧
      Stands mode head tail entry.2 ∧
      ∀ (other : Mode) (rest : Text), other.skipAfterInteger = mode.skipAfterInteger →
        ofText other offset (before ++ head :: rest) =
          earlier ++ ofText other entry.1 (head :: rest) := by
  induction offset, text using induction mode generalizing earlier with
  | nil offset => simp at split
  | step offset head tail piece width stands goes ih =>
    rw [ofText_of_width stands goes] at split
    cases earlier with
    | nil =>
      obtain ⟨rfl, -⟩ := List.cons.inj split
      exact ⟨[], head, tail, rfl, rfl, stands, fun _ _ _ => rfl⟩
    | cons first earlier =>
      obtain ⟨rfl, remains⟩ := List.cons.inj split
      obtain ⟨before, next, rest, cut, place, stands', same⟩ := ih remains
      have inside := stands.width_le goes
      -- The later piece stands beyond this one, which is seen to its end and one further.
      refine ⟨head :: tail.take width ++ before, next, rest, ?_, ?_, stands', ?_⟩
      · rw [List.cons_append, List.cons_append, List.append_assoc, ← cut, List.take_append_drop]
      · rw [place, List.length_append, List.length_cons, List.length_take_of_le inside]
        omega
      · intro other onward alike
        have again := (stands.of_drop goes cut onward).of_width goes alike
        have dropped : (tail.take width ++ (before ++ next :: onward)).drop width =
            before ++ next :: onward :=
          List.drop_left' (List.length_take_of_le inside)
        rw [List.cons_append, List.cons_append, List.append_assoc, ofText_of_width again goes,
          dropped, same other onward alike, List.cons_append]
  | stop offset head tail piece stands ends =>
    rw [ofText_of_end stands ends] at split
    cases earlier with
    | nil =>
      obtain ⟨rfl, -⟩ := List.cons.inj split
      exact ⟨[], head, tail, rfl, rfl, stands, fun _ _ _ => rfl⟩
    | cons first earlier =>
      have lengths := congrArg List.length split
      simp at lengths

/-- What has been read before a piece stays, whatever follows the head of that piece. -/
theorem exists_split {earlier later : Reading} {entry : Nat × Piece}
    (split : ofText mode offset text = earlier ++ entry :: later) :
    ∃ before head tail, text = before ++ head :: tail ∧ entry.1 = offset + before.length ∧
      Stands mode head tail entry.2 ∧
      ∀ other, ofText mode offset (before ++ head :: other) =
        earlier ++ ofText mode entry.1 (head :: other) := by
  obtain ⟨before, head, tail, cut, there, stands, same⟩ := exists_split_of_mode split
  exact ⟨before, head, tail, cut, there, stands, fun other => same mode other rfl⟩

theorem exists_cut_of_mem {entry : Nat × Piece} (member : entry ∈ ofText mode offset text) :
    ∃ before head tail, text = before ++ head :: tail ∧ entry.1 = offset + before.length ∧
      Stands mode head tail entry.2 := by
  obtain ⟨earlier, later, split⟩ := List.append_of_mem member
  obtain ⟨before, head, tail, cut, there, stands, -⟩ := exists_split split
  exact ⟨before, head, tail, cut, there, stands⟩

/-- A space after a text whose reading goes on to its end sets the text off from what follows. -/
theorem ofText_append_space (unended : (ofText mode offset text).Unended) (other : Text) :
    ∃ pieces : Reading,
      ofText mode offset (text ++ ' ' :: other) =
        pieces ++ ofText mode (offset + text.length + 1) other ∧
      pieces.Unended ∧
      ∀ source file, tokens source file pieces = tokens source file (ofText mode offset text) := by
  induction offset, text using induction mode with
  | nil offset =>
    have space : Stands mode ' ' other .gap := .blank (by decide)
    refine ⟨[(offset, .gap)], ?_, by simp [Unended, Piece.width?], fun _ _ => ?_⟩
    · rw [List.nil_append, ofText_of_width space rfl]
      rfl
    · simp [tokens, token?]
  | step offset head tail piece width stands goes ih =>
    have inside := stands.width_le goes
    rw [ofText_of_width stands goes] at unended
    rcases stands.append_space goes other with apart | ⟨whole, kind, written, place, rfl, apart⟩
    · obtain ⟨pieces, split, goes_on, same⟩ :=
        ih fun entry member => unended entry (by simp [member])
      refine ⟨(offset, piece) :: pieces, ?_, ?_, ?_⟩
      · rw [List.cons_append, ofText_of_width apart goes, List.drop_append_of_le_length inside,
          split, List.length_drop, List.length_cons, List.cons_append]
        congr 3
        omega
      · rintro entry member
        rcases List.mem_cons.mp member with rfl | later
        · simp [goes]
        · exact goes_on entry later
      · intro source file
        rw [ofText_of_width stands goes, tokens_cons, tokens_cons, same]
    -- An integer at the very end takes the space along, and nothing is left between.
    · refine ⟨[(offset, .lexeme kind written place (width + 1))], ?_, ?_, ?_⟩
      · have dropped : (tail ++ ' ' :: other).drop (tail.length + 1) = other := by simp
        rw [List.cons_append, ofText_of_width apart rfl, whole, dropped]
        congr 2
      · simp [Unended, Piece.width?]
      · intro source file
        rw [ofText_of_width stands goes, whole, List.drop_length, ofText_nil]
        rfl
  | stop offset head tail piece stands ends =>
    rw [ofText_of_end stands ends] at unended
    exact (unended (offset, piece) (by simp) ends).elim

theorem place_le_of_mem_ofText {entry : Nat × Piece} (member : entry ∈ ofText mode offset text)
    {place : Nat} (placed : entry.2.place? = some place) :
    entry.1 + place ≤ offset + text.length := by
  obtain ⟨before, head, tail, cut, there, stands⟩ := exists_cut_of_mem member
  have bound := stands.place_le placed
  rw [there, cut, List.length_append, List.length_cons]
  omega

end Reading

end LineMark
