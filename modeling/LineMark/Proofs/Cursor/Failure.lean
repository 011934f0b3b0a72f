import LineMark.Proofs.Cursor.Operation

/-!
Failures of a cursor. Counts may be negative, so operations lead to every offset. They fail only in
looking for a character so far before the start of the source that none is found from its end
backwards either, and leave the cursor where it was (`run_fails_exactly`).
-/

set_option autoImplicit false
set_option relaxedAutoImplicit false

namespace LineMark.Cursor

variable {cursor : Cursor}

private theorem map_eq_error_iff {α β : Type} (f : α → β) (result : Except Misuse α)
    (cause : Misuse) : f <$> result = .error cause ↔ result = .error cause := by
  cases result with
  | error reason => exact ⟨fun same => congrArg _ (Except.error.inj same), fun same => same ▸ rfl⟩
  | ok a => exact ⟨nofun, nofun⟩

theorem peek_eq_error_iff {cause : Misuse} :
    cursor.peek = .error cause ↔ cursor.offset < -cursor.length ∧ cause = .outOfRange := by
  by_cases below : cursor.offset < -cursor.length
  · rw [peek_of_lt below]
    simp [below, eq_comm]
  · obtain ⟨c, found⟩ := exists_peek (Int.not_lt.mp below)
    simp [found, below]

theorem skipWhitespace_eq_error_iff {options : SkipOptions} {cause : Misuse} :
    cursor.skipWhitespace options = .error cause ↔
      (Operation.skip options).Fails cursor.length cursor.offset ∧ cause = .outOfRange := by
  by_cases fails : (Operation.skip options).Fails cursor.length cursor.offset
  · rw [(skip_of_fails fails).2]
    simp [fails, eq_comm]
  · obtain ⟨count, -, -, whole⟩ := skip_of_not_fails fails
    simp [whole, fails]

theorem apply_eq_error_iff {operation : Operation} {cause : Misuse} :
    cursor.apply operation = .error cause ↔
      operation.Fails cursor.length cursor.offset ∧ cause = .outOfRange := by
  cases operation with
  | peek => exact (map_eq_error_iff _ _ _).trans peek_eq_error_iff
  | skip options => exact (map_eq_error_iff _ _ _).trans skipWhitespace_eq_error_iff
  | peekAt | peekText | remaining | remainingLength | hasRemaining | location | advance | retreat
  | read =>
    simp [apply, Operation.Fails]

theorem perform_eq_error_iff {operation : Operation} {last : Cursor} {cause : Misuse} :
    cursor.perform operation = (last, .error cause) ↔
      operation.Fails cursor.length cursor.offset ∧ last = cursor ∧ cause = .outOfRange := by
  rw [perform_eq_apply]
  constructor
  · intro failed
    cases applied : cursor.apply operation with
    | ok result => simp [applied] at failed
    | error reason =>
      obtain ⟨rfl, rfl⟩ : cursor = last ∧ reason = cause := by simpa [applied] using failed
      obtain ⟨fails, out⟩ := apply_eq_error_iff.mp applied
      exact ⟨fails, rfl, out⟩
  · rintro ⟨fails, rfl, rfl⟩
    rw [apply_eq_error_iff.mpr ⟨fails, rfl⟩]

theorem exists_run_iff {source : Text} {file : Option Text} :
    (∃ operations, ((ofSource source file).run operations).1 = cursor) ↔
      cursor.source = source ∧ cursor.file = file := by
  constructor
  · rintro ⟨operations, rfl⟩
    obtain ⟨count, moved⟩ := exists_run_moved (ofSource source file) operations
    rw [moved]
    exact ⟨rfl, rfl⟩
  · rintro ⟨rfl, rfl⟩
    by_cases within : cursor.offset ≤ cursor.length
    · refine ⟨[.advance cursor.offset], ?_⟩
      have room : ¬(cursor.source.length : Int) < cursor.offset := Int.not_lt.mpr within
      simp only [run, perform, advance, ofSource, length, moved, Int.zero_add, if_neg room]
    · -- An advance would stop at the end of the source, but a retreat by a negative count does not.
      refine ⟨[.retreat (-cursor.offset)], ?_⟩
      have nonneg : 0 ≤ cursor.length := Int.natCast_nonneg _
      have reached : max 0 (0 - -cursor.offset) = cursor.offset := by omega
      simp only [run, perform, retreat, ofSource, reached]

/-- Whatever the counts, operations lead from the start of a source to every offset. Wherever they
have led, a look at the next character fails exactly where the source has none at the offset, not
even from its end backwards, and a skip exactly where it then looks at a character at all. Performed
step by step these two fail in the same cases, before the cursor has moved, and no other operation
fails. A skip that does not fail comes to an end, leads no way back and not beyond the end of the
source. -/
theorem run_fails_exactly (source : Text) (file : Option Text) :
    (∀ offset : Int, ∃ operations,
      ((ofSource source file).run operations).1 = ⟨source, offset, file⟩) ∧
    ∀ (operations : List Operation) (cursor : Cursor),
      ((ofSource source file).run operations).1 = cursor →
      cursor.source = source ∧
      (∀ cause, cursor.peek = .error cause ↔
        cursor.offset < -(source.length : Int) ∧ cause = .outOfRange) ∧
      (∀ options cause, cursor.skipWhitespace options = .error cause ↔
        (cursor.offset < -(source.length : Int) ∧
          (options.maxCount.all (0 < ·) = true ∨
            options.preserveSingle = true ∧ source.length = 0 ∧ cursor.offset = -1)) ∧
        cause = .outOfRange) ∧
      (∀ operation last cause, cursor.perform operation = (last, .error cause) ↔
        operation.Fails source.length cursor.offset ∧ last = cursor ∧ cause = .outOfRange) ∧
      ∀ options, ¬(Operation.skip options).Fails source.length cursor.offset →
        ∃ next, cursor.skipWhitespace options = .ok next ∧
          cursor.perform (.skip options) = (next, .ok .done) ∧
          cursor.offset ≤ next.offset ∧ next.offset ≤ max cursor.offset source.length := by
  refine ⟨fun offset => exists_run_iff.mpr ⟨rfl, rfl⟩, ?_⟩
  intro operations cursor reached
  obtain ⟨rfl, -⟩ := exists_run_iff.mp ⟨operations, reached⟩
  refine ⟨rfl, ?_, ?_, ?_, ?_⟩
  · intro cause
    exact peek_eq_error_iff
  · intro options cause
    rw [skipWhitespace_eq_error_iff]
    simp only [Operation.Fails, length, Int.natCast_eq_zero]
  · intro operation last cause
    exact perform_eq_error_iff
  · intro options holds
    obtain ⟨count, within, stepped, whole⟩ := skip_of_not_fails holds
    refine ⟨cursor.moved count, whole, ?_, ?_, within⟩
    · simp only [perform, stepped]
      rfl
    · rw [moved_offset]
      omega

-- Before the start of the source it is the white space at the end that is passed over.
example :
    (⟨"ab \n".toList, -2, none⟩ : Cursor).skipWhitespace {} = .ok ⟨"ab \n".toList, 0, none⟩ :=
  rfl

end LineMark.Cursor
