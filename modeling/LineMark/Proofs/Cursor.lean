import LineMark.Cursor
import LineMark.Proofs.Runs

/-!
Cursors inside their source. Such a cursor splits its source into the text before it and the unread
text, and its operations are told in terms of these two.
-/

set_option autoImplicit false
set_option relaxedAutoImplicit false

namespace LineMark.Cursor

/-- The cursor stands in its source between the two texts. -/
structure Splits (cursor : Cursor) (before after : Text) : Prop where
  source : cursor.source = before ++ after
  offset : cursor.offset = (before.length : Int)

@[simp] theorem moved_moved (cursor : Cursor) (first second : Int) :
    (cursor.moved first).moved second = cursor.moved (first + second) := by
  simp [moved, Int.add_assoc]

@[simp] theorem moved_zero (cursor : Cursor) : cursor.moved 0 = cursor := by
  simp [moved]

@[simp] theorem moved_source (cursor : Cursor) (count : Int) :
    (cursor.moved count).source = cursor.source := rfl

@[simp] theorem moved_file (cursor : Cursor) (count : Int) :
    (cursor.moved count).file = cursor.file := rfl

@[simp] theorem moved_offset (cursor : Cursor) (count : Int) :
    (cursor.moved count).offset = cursor.offset + count := rfl

@[simp] theorem moved_length (cursor : Cursor) (count : Int) :
    (cursor.moved count).length = cursor.length := rfl

theorem splits_ofSource (source : Text) (file : Option Text) :
    (ofSource source file).Splits [] source :=
  ⟨rfl, rfl⟩

def skipLength (options : SkipOptions) (unread : Text) : Nat :=
  if options.preserveSingle ∧ unread = [' '] then 0
  else
    let limit := (options.maxCount.map Int.toNat).getD unread.length
    ((unread.take limit).takeWhile (skips options)).length

private theorem take_skipLength (options : SkipOptions) (unread : Text) :
    ∀ c ∈ unread.take (skipLength options unread), skips options c = true := by
  unfold skipLength
  split
  · simp
  · dsimp only
    generalize (options.maxCount.map Int.toNat).getD unread.length = limit
    have inside : (unread.take limit).takeWhile (skips options) <+: unread :=
      (List.takeWhile_prefix _).trans (List.take_prefix _ _)
    rw [← List.prefix_iff_eq_take.mp inside]
    exact List.all_eq_true.mp List.all_takeWhile

theorem isWhitespace_of_mem_take_skipLength {options : SkipOptions} {unread : Text} {c : Char}
    (member : c ∈ unread.take (skipLength options unread)) : Unicode.isWhitespace c = true := by
  have skipped := take_skipLength options unread c member
  simp only [skips, Bool.and_eq_true] at skipped
  exact skipped.1

theorem skipLength_le (options : SkipOptions) (unread : Text) :
    skipLength options unread ≤ unread.length := by
  unfold skipLength
  split
  · exact Nat.zero_le _
  · exact ((List.takeWhile_prefix _).trans (List.take_prefix _ _)).length_le

private theorem length_takeWhile_take (property : Char → Bool) (text : Text) (count : Nat) :
    ((text.take count).takeWhile property).length =
      min count (text.takeWhile property).length := by
  induction text generalizing count with
  | nil => simp
  | cons c rest ih =>
    cases count with
    | zero => simp
    | succ count =>
      rw [List.take_succ_cons, List.takeWhile_cons, List.takeWhile_cons]
      split
      · rw [List.length_cons, List.length_cons, ih]
        omega
      · simp

theorem skipLength_eq_min {options : SkipOptions} {unread : Text}
    (apart : ¬(options.preserveSingle = true ∧ unread = [' '])) :
    skipLength options unread =
      min ((options.maxCount.map Int.toNat).getD unread.length)
        (unread.takeWhile (skips options)).length := by
  rw [skipLength, if_neg apart]
  exact length_takeWhile_take _ _ _

theorem skipLength_of_preserved {options : SkipOptions} {unread : Text}
    (preserved : options.preserveSingle = true ∧ unread = [' ']) :
    skipLength options unread = 0 :=
  if_pos preserved

/-- The limit of a skip, if it has one, allows so many characters. -/
def IsAmple (maxCount : Option Int) (count : Int) : Prop :=
  ∀ limit ∈ maxCount, count ≤ limit

theorem isAmple_none (count : Int) : IsAmple none count :=
  nofun

theorem IsAmple.mono {maxCount : Option Int} {fewer count : Int} (ample : IsAmple maxCount count)
    (less : fewer ≤ count) : IsAmple maxCount fewer := by
  intro limit allowed
  exact Int.le_trans less (ample limit allowed)

theorem skipLength_of_isAmple {options : SkipOptions} {unread : Text}
    (ample : IsAmple options.maxCount unread.length)
    (apart : ¬(options.preserveSingle = true ∧ unread = [' '])) :
    skipLength options unread = (unread.takeWhile (skips options)).length := by
  have shorter : (unread.takeWhile (skips options)).length ≤ unread.length :=
    (List.takeWhile_prefix _).length_le
  rw [skipLength_eq_min apart]
  apply Nat.min_eq_right
  cases limited : options.maxCount with
  | none => exact shorter
  | some limit =>
    have enough := ample limit limited
    rw [Option.map_some, Option.getD_some]
    omega

theorem skipLength_of_isRun {options : SkipOptions} (unlimited : options.maxCount = none)
    (whole : options.preserveSingle = false) {run rest : Text}
    (cut : Text.IsRun (skips options) run rest) :
    skipLength options (run ++ rest) = run.length := by
  have ample : IsAmple options.maxCount (run ++ rest).length := unlimited ▸ isAmple_none _
  rw [skipLength_of_isAmple ample (by simp [whole]), cut.takeWhile_eq]

namespace Splits

variable {cursor : Cursor} {before after : Text}

theorem length_eq (splits : cursor.Splits before after) :
    cursor.length = before.length + after.length := by
  simp [length, splits.source]

theorem remainingLength_eq (splits : cursor.Splits before after) :
    cursor.remainingLength = after.length := by
  rw [remainingLength, splits.length_eq, splits.offset]
  omega

theorem remaining_eq (splits : cursor.Splits before after) : cursor.remaining = after := by
  simp [remaining, Text.suffixFrom, splits.source, splits.offset]

theorem moved (passed : Text) {rest : Text} (splits : cursor.Splits before (passed ++ rest)) :
    (cursor.moved passed.length).Splits (before ++ passed) rest where
  source := by simp [splits.source]
  offset := by simp [splits.offset]

theorem moved_drop (splits : cursor.Splits before after) {count : Nat}
    (inside : count ≤ after.length) :
    (cursor.moved count).Splits (before ++ after.take count) (after.drop count) := by
  have cut : cursor.Splits before (after.take count ++ after.drop count) := by
    rwa [List.take_append_drop]
  have next := cut.moved (after.take count)
  rwa [List.length_take_of_le inside] at next

private theorem charAt_offset {c : Char} {rest : Text}
    (splits : cursor.Splits before (c :: rest)) : cursor.charAt cursor.offset = .ok c := by
  have inside : ¬(before.length : Int) < 0 := by omega
  simp only [charAt, splits.offset, if_neg inside, splits.source, Int.toNat_natCast,
    List.getElem?_append_right (Nat.le_refl _), Nat.sub_self, List.getElem?_cons_zero]

theorem peek_eq (splits : cursor.Splits before after) : cursor.peek = .ok after.head? := by
  cases after with
  | nil => simp [peek, hasRemaining, splits.length_eq, splits.offset]
  | cons c rest =>
    have remaining : cursor.hasRemaining = true := by
      simp only [hasRemaining, splits.length_eq, splits.offset, List.length_cons, decide_eq_true_eq]
      omega
    rw [peek, if_pos remaining, splits.charAt_offset]
    rfl

theorem hasRemaining_eq (splits : cursor.Splits before after) :
    cursor.hasRemaining = !after.isEmpty := by
  rw [hasRemaining, splits.length_eq, splits.offset]
  cases after with
  | nil => simp
  | cons c rest =>
    have longer : (before.length : Int) < before.length + (c :: rest).length := by
      rw [List.length_cons]
      omega
    exact decide_eq_true longer

theorem peekAt_one_eq {head : Char} {tail : Text} (splits : cursor.Splits before (head :: tail)) :
    cursor.peekAt 1 = tail.head? := by
  have inside : ¬cursor.offset + 1 < 0 := by
    rw [splits.offset]
    omega
  have place : (cursor.offset + 1).toNat = (before ++ [head]).length := by
    rw [splits.offset, List.length_append, List.length_singleton]
    omega
  rw [peekAt, if_neg inside, place, splits.source, List.append_cons,
    List.getElem?_append_right (Nat.le_refl _), Nat.sub_self, List.head?_eq_getElem?]

theorem peekText_eq {text rest : Text} (splits : cursor.Splits before (text ++ rest)) :
    cursor.peekText text.length = text := by
  have enough : ¬cursor.remainingLength < text.length := by
    rw [splits.remainingLength_eq, List.length_append]
    omega
  rw [peekText, if_neg enough, splits.source, splits.offset, ← Int.natCast_add, Text.slice_append]

theorem advance_eq (splits : cursor.Splits before after) {count : Nat}
    (inside : count ≤ after.length) : cursor.advance count = cursor.moved count := by
  refine if_neg ?_
  rw [splits.length_eq, splits.offset]
  omega

theorem advance_eq_self (splits : cursor.Splits before after) {count : Nat}
    (beyond : after.length < count) : cursor.advance count = cursor := by
  refine if_pos ?_
  rw [splits.length_eq, splits.offset]
  omega

theorem retreat_eq (splits : cursor.Splits before after) {count : Nat}
    (inside : count ≤ before.length) : cursor.retreat count = cursor.moved (-count) := by
  have above : max 0 (cursor.offset - count) = cursor.offset + -(count : Int) := by
    rw [splits.offset]
    omega
  rw [retreat, above]
  rfl

theorem advance_retreat (splits : cursor.Splits before after) {count : Nat}
    (inside : count ≤ before.length) : (cursor.retreat count).advance count = cursor := by
  have within : ¬cursor.length < cursor.offset + -(count : Int) + count := by
    rw [splits.length_eq, splits.offset]
    omega
  rw [splits.retreat_eq inside, advance, moved_length, moved_offset, if_neg within, moved_moved,
    Int.add_left_neg, moved_zero]

private theorem skipAtMost_eq (options : SkipOptions) (count : Nat)
    (splits : cursor.Splits before after) (inside : count ≤ after.length) :
    cursor.skipAtMost options count =
      .ok (cursor.moved ((after.take count).takeWhile (skips options)).length) := by
  induction count generalizing cursor before after with
  | zero => simp [skipAtMost]
  | succ count ih =>
    cases after with
    | nil => simp at inside
    | cons c rest =>
      have next : (cursor.moved 1).Splits (before ++ [c]) rest := splits.moved [c]
      simp only [skipAtMost, splits.charAt_offset, List.take_succ_cons, List.takeWhile_cons]
      change (if skips options c = true then skipAtMost options count (cursor.moved 1)
        else .ok cursor) = _
      split
      · rw [ih next (by simpa using inside), moved_moved, List.length_cons]
        congr 2
        omega
      · simp

private theorem atPreservedSpace_eq (options : SkipOptions)
    (splits : cursor.Splits before after) :
    cursor.atPreservedSpace options = .ok (options.preserveSingle && after == [' ']) := by
  unfold atPreservedSpace
  rw [splits.remainingLength_eq, splits.peek_eq]
  cases options.preserveSingle with
  | false => rfl
  | true =>
    match after with
    | [] => rfl
    | [c] => simp [Functor.map, Except.map]
    | _ :: _ :: rest =>
      have longer : ¬(rest.length : Int) + 1 + 1 = 1 := by omega
      simp [longer]

theorem skipWhitespace_eq (options : SkipOptions) (splits : cursor.Splits before after) :
    cursor.skipWhitespace options = .ok (cursor.moved (skipLength options after)) := by
  have toEnd : cursor.remainingLength.toNat = after.length := by
    rw [splits.remainingLength_eq, Int.toNat_natCast]
  rw [skipWhitespace, splits.atPreservedSpace_eq options, toEnd]
  change (if (options.preserveSingle && after == [' ']) = true then .ok cursor
    else skipAtMost options
      (min ((options.maxCount.map Int.toNat).getD after.length) after.length) cursor) = _
  generalize bound : (options.maxCount.map Int.toNat).getD after.length = limit
  have taken : after.take (min limit after.length) = after.take limit := by
    simp [List.take_eq_take_iff]
  rw [splits.skipAtMost_eq options _ (Nat.min_le_right _ _), taken]
  simp only [skipLength, bound, Bool.and_eq_true, beq_iff_eq]
  split
  · simp
  · rfl

end Splits

/-- The cursor stands in the source or at its end. -/
structure IsIn (source : Text) (cursor : Cursor) : Prop where
  source_eq : cursor.source = source
  nonneg : 0 ≤ cursor.offset
  le_length : cursor.offset ≤ source.length

variable {source : Text} {cursor : Cursor}

theorem Splits.isIn {before after : Text} (splits : cursor.Splits before after) :
    cursor.IsIn (before ++ after) where
  source_eq := splits.source
  nonneg := by rw [splits.offset]; omega
  le_length := by rw [splits.offset, List.length_append]; omega

namespace IsIn

theorem exists_splits (inside : cursor.IsIn source) :
    ∃ before after, source = before ++ after ∧ cursor.Splits before after := by
  obtain ⟨offset, reached⟩ := Int.eq_ofNat_of_zero_le inside.nonneg
  have within : offset ≤ source.length := by
    have bound := inside.le_length
    omega
  refine ⟨source.take offset, source.drop offset, (List.take_append_drop ..).symm, ?_, ?_⟩
  · rw [List.take_append_drop, inside.source_eq]
  · rw [List.length_take_of_le within, reached]

theorem advance (inside : cursor.IsIn source) (count : Nat) :
    (cursor.advance count).IsIn source := by
  obtain ⟨same, nonneg, bound⟩ := inside
  unfold Cursor.advance
  split
  case isTrue => exact ⟨same, nonneg, bound⟩
  case isFalse within =>
    rw [length, same] at within
    exact ⟨same, by rw [moved_offset]; omega, by rw [moved_offset]; omega⟩

theorem retreat (inside : cursor.IsIn source) (count : Nat) :
    (cursor.retreat count).IsIn source := by
  obtain ⟨same, nonneg, bound⟩ := inside
  refine ⟨same, ?_, ?_⟩ <;> simp only [Cursor.retreat] <;> omega

theorem skipWhitespace (inside : cursor.IsIn source) {options : SkipOptions} {next : Cursor}
    (skipped : cursor.skipWhitespace options = .ok next) : next.IsIn source := by
  obtain ⟨before, after, rfl, splits⟩ := inside.exists_splits
  obtain rfl := Except.ok.inj ((splits.skipWhitespace_eq options).symm.trans skipped)
  have moved := (splits.moved_drop (skipLength_le options after)).isIn
  rwa [List.append_assoc, List.take_append_drop] at moved

end IsIn

end LineMark.Cursor
