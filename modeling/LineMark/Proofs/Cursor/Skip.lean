import LineMark.Proofs.Cursor.Operation
import Mathlib.Order.Bounds.Basic

/-!
How far a skip goes. It passes over the longest prefix of white space that the unread text has, or
over as much of it as its limit allows, and over nothing where a single space is to be preserved.
Limits therefore add up, and a skip whose limit is not reached leaves nothing to be skipped
(`skipWhitespace_exact`).
-/

set_option autoImplicit false
set_option relaxedAutoImplicit false

namespace LineMark.Cursor

/-- The lengths of the prefixes of a text that are white space throughout, and in which there are
no line breaks where a skip is to stop at them. -/
def blankLengths (stopAtNewline : Bool) (text : Text) : Set Nat :=
  { n | ∃ blank, blank <+: text ∧ blank.length = n ∧
    ∀ c ∈ blank, Unicode.isWhitespace c = true ∧ (stopAtNewline = true → c ≠ '\n') }

theorem skips_iff {options : SkipOptions} {c : Char} :
    skips options c = true ↔
      Unicode.isWhitespace c = true ∧ (options.stopAtNewline = true → c ≠ '\n') := by
  rw [skips, Bool.and_eq_true]
  apply and_congr_right'
  cases options.stopAtNewline <;> simp

theorem isGreatest_blankLengths (options : SkipOptions) (text : Text) :
    IsGreatest (blankLengths options.stopAtNewline text)
      (text.takeWhile (skips options)).length := by
  constructor
  · refine ⟨_, List.takeWhile_prefix _, rfl, ?_⟩
    intro c member
    exact skips_iff.mp (List.all_eq_true.mp List.all_takeWhile c member)
  · rintro _ ⟨blank, ⟨rest, rfl⟩, rfl, inside⟩
    have skipped : ∀ c ∈ blank, skips options c = true := by
      intro c member
      exact skips_iff.mpr (inside c member)
    rw [List.takeWhile_append_of_pos skipped, List.length_append]
    omega

theorem blankLengths_subset (text : Text) : blankLengths true text ⊆ blankLengths false text := by
  rintro n ⟨blank, initial, length, inside⟩
  refine ⟨blank, initial, length, ?_⟩
  intro c member
  exact ⟨(inside c member).1, nofun⟩

private theorem length_takeWhile_drop {property : Char → Bool} {text : Text} {count : Nat}
    (inside : count ≤ (text.takeWhile property).length) :
    count + ((text.drop count).takeWhile property).length =
      (text.takeWhile property).length := by
  induction count generalizing text with
  | zero => simp
  | succ count ih =>
    cases text with
    | nil => simp at inside
    | cons c rest =>
      rw [List.takeWhile_cons] at inside ⊢
      split
      · rename_i holds
        rw [if_pos holds, List.length_cons] at inside
        have others := ih (Nat.le_of_succ_le_succ inside)
        rw [List.drop_succ_cons, List.length_cons]
        omega
      · rename_i fails
        rw [if_neg fails] at inside
        simp at inside

theorem skipLength_eq_elim (options : SkipOptions) (unread : Text) :
    (skipLength options unread : Int) =
      if options.preserveSingle = true ∧ unread = [' '] then 0
      else options.maxCount.elim ((unread.takeWhile (skips options)).length : Int) fun limit =>
        min (max limit 0) (unread.takeWhile (skips options)).length := by
  by_cases preserved : options.preserveSingle = true ∧ unread = [' ']
  · rw [if_pos preserved, skipLength_of_preserved preserved]
    rfl
  · rw [if_neg preserved]
    cases limited : options.maxCount with
    | none =>
      have unlimited : IsAmple options.maxCount unread.length := limited ▸ isAmple_none _
      rw [skipLength_of_isAmple unlimited preserved, Option.elim_none]
    | some limit =>
      rw [skipLength_eq_min preserved, limited, Option.map_some, Option.getD_some,
        Option.elim_some]
      omega

theorem skipLength_add (stopAtNewline : Bool) (first second : Nat) (unread : Text) :
    skipLength { maxCount := some first, stopAtNewline } unread +
        skipLength { maxCount := some second, stopAtNewline }
          (unread.drop (skipLength { maxCount := some first, stopAtNewline } unread)) =
      skipLength { maxCount := some (first + second : Nat), stopAtNewline } unread := by
  have limited : ∀ (limit : Nat) (text : Text),
      skipLength { maxCount := some limit, stopAtNewline } text =
        min limit (text.takeWhile (skips { stopAtNewline })).length := by
    intro limit text
    exact skipLength_eq_min (by simp)
  simp only [limited]
  have rest := length_takeWhile_drop
    (Nat.min_le_right first (unread.takeWhile (skips { stopAtNewline })).length)
  omega

theorem skipLength_drop_skipLength {options : SkipOptions} {unread : Text}
    (ample : IsAmple options.maxCount unread.length) :
    skipLength options (unread.drop (skipLength options unread)) = 0 := by
  by_cases preserved : options.preserveSingle = true ∧ unread = [' ']
  · rw [skipLength_of_preserved preserved, List.drop_zero, skipLength_of_preserved preserved]
  · rw [skipLength_of_isAmple ample preserved]
    -- A space to be preserved may only come to be alone by the first skip.
    by_cases again : options.preserveSingle = true ∧
        unread.drop (unread.takeWhile (skips options)).length = [' ']
    · exact skipLength_of_preserved again
    · have rest := length_takeWhile_drop (Nat.le_refl (unread.takeWhile (skips options)).length)
      rw [skipLength_eq_min again]
      omega

theorem skipLength_line_add {maxCount : Option Int} {unread : Text}
    (ample : IsAmple maxCount unread.length) :
    skipLength { maxCount, stopAtNewline := true } unread +
        skipLength { maxCount }
          (unread.drop (skipLength { maxCount, stopAtNewline := true } unread)) =
      skipLength { maxCount } unread := by
  have within : skipLength { maxCount, stopAtNewline := true } unread =
      (unread.takeWhile (skips { maxCount, stopAtNewline := true })).length := by
    apply skipLength_of_isAmple ample
    simp
  have shorter : (unread.takeWhile (skips { maxCount, stopAtNewline := true })).length ≤
      (unread.takeWhile (skips { maxCount })).length :=
    IsGreatest.mono (isGreatest_blankLengths { maxCount, stopAtNewline := true } unread)
      (isGreatest_blankLengths { maxCount } unread) (blankLengths_subset unread)
  have fewer : ∀ text : Text, text.length ≤ unread.length → skipLength { maxCount } text =
      (text.takeWhile (skips { maxCount })).length := by
    intro text short
    exact skipLength_of_isAmple (ample.mono (Int.ofNat_le.mpr short)) (by simp)
  rw [within, fewer _ (List.drop_sublist _ _).length_le, fewer _ (Nat.le_refl _)]
  exact length_takeWhile_drop shorter

variable {cursor : Cursor} {before after : Text}

theorem Splits.skip_eq (splits : cursor.Splits before after) (options : SkipOptions) :
    cursor.skip options = (cursor.moved (skipLength options after), .ok ()) := by
  have inside := splits.isIn.nonneg
  have nonneg : 0 ≤ cursor.length := Int.natCast_nonneg _
  have holds : ¬(Operation.skip options).Fails cursor.length cursor.offset := by
    rintro ⟨below, -⟩
    omega
  obtain ⟨count, -, stepped, whole⟩ := skip_of_not_fails holds
  have same := Except.ok.inj (whole.symm.trans (splits.skipWhitespace_eq options))
  rw [stepped, same]

theorem Splits.skipWhitespace_bind (splits : cursor.Splits before after)
    (first second : SkipOptions) :
    (cursor.skipWhitespace first >>= fun next => next.skipWhitespace second) =
      .ok (cursor.moved (skipLength first after +
        skipLength second (after.drop (skipLength first after)) : Nat)) := by
  have next := splits.moved_drop (skipLength_le first after)
  rw [splits.skipWhitespace_eq first]
  show (cursor.moved (skipLength first after)).skipWhitespace second = _
  rw [next.skipWhitespace_eq second, moved_moved]
  rfl

/-- Anywhere in a source, or at its end, a skip moves the cursor by the length of the longest blank
prefix of the unread text, or by its limit if that is less and not negative, or not at all if the
unread text is a single space to be preserved. It does so whether it counts the characters first or
tests them one by one. A skip with one limit and then one with another come to where a skip with the
sum comes to; a skip whose limit is absent or no less than the source has the same effect twice as
once; and after such a skip within the line, one over lines comes to where it comes to by itself. -/
theorem skipWhitespace_exact (nonneg : 0 ≤ cursor.offset) (inside : cursor.offset ≤ cursor.length) :
    (∀ options, ∃ n count : Nat,
      IsGreatest (blankLengths options.stopAtNewline cursor.remaining) n ∧
      cursor.skipWhitespace options = .ok (cursor.moved count) ∧
      cursor.skip options = (cursor.moved count, .ok ()) ∧
      (count : Int) =
        if options.preserveSingle = true ∧ cursor.remaining = [' '] then 0
        else options.maxCount.elim (n : Int) fun limit => min (max limit 0) n) ∧
    (∀ (stopAtNewline : Bool) (first second : Nat),
      (cursor.skipWhitespace { maxCount := some first, stopAtNewline } >>= fun next =>
          next.skipWhitespace { maxCount := some second, stopAtNewline }) =
        cursor.skipWhitespace { maxCount := some (first + second : Nat), stopAtNewline }) ∧
    (∀ options, IsAmple options.maxCount cursor.length →
      (cursor.skipWhitespace options >>= fun next => next.skipWhitespace options) =
        cursor.skipWhitespace options) ∧
    ∀ maxCount, IsAmple maxCount cursor.length →
      (cursor.skipWhitespace { maxCount, stopAtNewline := true } >>= fun next =>
          next.skipWhitespace { maxCount }) =
        cursor.skipWhitespace { maxCount } := by
  have stands : cursor.IsIn cursor.source := ⟨rfl, nonneg, inside⟩
  obtain ⟨before, after, -, splits⟩ := stands.exists_splits
  have shorter : (after.length : Int) ≤ cursor.length := by
    rw [splits.length_eq]
    omega
  refine ⟨?_, ?_, ?_, ?_⟩
  · intro options
    refine ⟨_, _, isGreatest_blankLengths options cursor.remaining,
      splits.skipWhitespace_eq options, splits.skip_eq options, ?_⟩
    rw [splits.remaining_eq]
    exact skipLength_eq_elim options after
  · intro stopAtNewline first second
    rw [splits.skipWhitespace_bind, splits.skipWhitespace_eq, skipLength_add]
  · intro options enough
    rw [splits.skipWhitespace_bind, splits.skipWhitespace_eq,
      skipLength_drop_skipLength (enough.mono shorter), Nat.add_zero]
  · intro maxCount enough
    rw [splits.skipWhitespace_bind, splits.skipWhitespace_eq,
      skipLength_line_add (enough.mono shorter)]

theorem skipWhitespace_exact_across_lines :
    let cursor : Cursor := ⟨"a \n  b".toList, 1, none⟩
    (0 ≤ cursor.offset ∧ cursor.offset ≤ cursor.length) ∧
      IsAmple (some 6) cursor.length ∧
      (cursor.skipWhitespace { maxCount := some 1 } >>= fun next =>
        next.skipWhitespace { maxCount := some 2 }) = .ok ⟨"a \n  b".toList, 4, none⟩ ∧
      (cursor.skipWhitespace { maxCount := some 6, preserveSingle := true } >>= fun next =>
        next.skipWhitespace { maxCount := some 6, preserveSingle := true }) =
          .ok ⟨"a \n  b".toList, 5, none⟩ := by
  have within : (0 : Int) ≤ (⟨"a \n  b".toList, 1, none⟩ : Cursor).offset ∧
      (⟨"a \n  b".toList, 1, none⟩ : Cursor).offset ≤
        (⟨"a \n  b".toList, 1, none⟩ : Cursor).length := by
    decide
  have enough : IsAmple (some 6) (⟨"a \n  b".toList, 1, none⟩ : Cursor).length := by
    rintro limit ⟨⟩
    decide
  obtain ⟨-, limits, twice, -⟩ := skipWhitespace_exact within.1 within.2
  refine ⟨within, enough, (limits false 1 2).trans rfl, ?_⟩
  exact (twice { maxCount := some 6, preserveSingle := true } enough).trans rfl

-- With a space to be preserved the limits do not add up: of two spaces the last stays unread.
example :
    ((⟨"  ".toList, 0, none⟩ : Cursor).skipWhitespace { maxCount := some 1, preserveSingle := true }
        >>= fun next => next.skipWhitespace { maxCount := some 1, preserveSingle := true }) =
      .ok ⟨"  ".toList, 1, none⟩ :=
  rfl

end LineMark.Cursor
