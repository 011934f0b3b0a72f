import LineMark.Proofs.Cursor

/-!
Operations of a cursor, asked for one after another. `Cursor.perform` accesses one character after
another, any of them possibly out of range, and leaves the cursor where it was when an access
failed. It turns out to be all or nothing (`perform_eq_apply`): where an operation fails it has not
moved the cursor yet.
-/

set_option autoImplicit false
set_option relaxedAutoImplicit false

namespace LineMark.Cursor

inductive Operation
  | peek
  | peekAt (distance : Int)
  | peekText (count : Int)
  | remaining
  | remainingLength
  | hasRemaining
  | location
  | advance (count : Int)
  | retreat (count : Int)
  | read (count : Int)
  | skip (options : SkipOptions)

inductive Reply
  | done
  | char (c : Option Char)
  | text (text : Text)
  | number (n : Int)
  | flag (holds : Bool)
  | place (location : Location)
  deriving DecidableEq

def apply (cursor : Cursor) : Operation → Except Misuse (Cursor × Reply)
  | .peek => (cursor, .char ·) <$> cursor.peek
  | .peekAt distance => .ok (cursor, .char (cursor.peekAt distance))
  | .peekText count => .ok (cursor, .text (cursor.peekText count))
  | .remaining => .ok (cursor, .text cursor.remaining)
  | .remainingLength => .ok (cursor, .number cursor.remainingLength)
  | .hasRemaining => .ok (cursor, .flag cursor.hasRemaining)
  | .location => .ok (cursor, .place cursor.location)
  | .advance count => .ok (cursor.advance count, .done)
  | .retreat count => .ok (cursor.retreat count, .done)
  | .read count => .ok ((cursor.read count).2, .text (cursor.read count).1)
  | .skip options => (·, .done) <$> cursor.skipWhitespace options

def accessAt (cursor : Cursor) (distance : Int) : Except Misuse (Option Char) :=
  let position := cursor.offset + distance
  if position < 0 ∨ cursor.length ≤ position then .ok none else some <$> cursor.charAt position

/-- Skips white space from a cursor before which so many characters have been skipped already. The
limit and the end of the source are tested anew before each character. -/
def skipOn (options : SkipOptions) (skipped : Nat) (cursor : Cursor) :
    Cursor × Except Misuse Unit :=
  if options.maxCount.all ((skipped : Int) < ·) = true ∧ cursor.offset < cursor.length then
    match cursor.charAt cursor.offset with
    | .ok c =>
      if skips options c then skipOn options (skipped + 1) (cursor.moved 1) else (cursor, .ok ())
    | .error cause => (cursor, .error cause)
  else (cursor, .ok ())
termination_by (cursor.length - cursor.offset).toNat
decreasing_by
  rw [moved_length, moved_offset]
  omega

def skip (cursor : Cursor) (options : SkipOptions) : Cursor × Except Misuse Unit :=
  match cursor.atPreservedSpace options with
  | .ok true => (cursor, .ok ())
  | .ok false => skipOn options 0 cursor
  | .error cause => (cursor, .error cause)

/-- The cursor to which an operation leads, even if it fails on the way, and the answer to it or the
cause of the failure. -/
def perform (cursor : Cursor) : Operation → Cursor × Except Misuse Reply
  | .peek => (cursor, .char <$> cursor.peek)
  | .peekAt distance => (cursor, .char <$> cursor.accessAt distance)
  | .peekText count => (cursor, .ok (.text (cursor.peekText count)))
  | .remaining => (cursor, .ok (.text cursor.remaining))
  | .remainingLength => (cursor, .ok (.number cursor.remainingLength))
  | .hasRemaining => (cursor, .ok (.flag cursor.hasRemaining))
  | .location => (cursor, .ok (.place cursor.location))
  | .advance count => (cursor.advance count, .ok .done)
  | .retreat count => (cursor.retreat count, .ok .done)
  | .read count =>
    let (text, next) := cursor.read count
    (next, .ok (.text text))
  | .skip options =>
    let (next, result) := cursor.skip options
    (next, (fun _ => .done) <$> result)

/-- The operation fails in a source of the given length at the given offset: it accesses a character
before the start of the source backwards. A skip that may pass over no character accesses one only
to test whether it is a space to be preserved. -/
def Operation.Fails (length offset : Int) : Operation → Prop
  | .peek => offset < -length
  | .skip options =>
    offset < -length ∧ (options.maxCount.all (0 < ·) = true ∨
      options.preserveSingle = true ∧ length = 0 ∧ offset = -1)
  | _ => False

/-- The cursor after a list of operations, and the answers to them in order. After a failure the
next operation is performed on the cursor as the failure has left it. -/
def run (cursor : Cursor) : List Operation → Cursor × List (Except Misuse Reply)
  | [] => (cursor, [])
  | operation :: operations =>
    let (next, answer) := cursor.perform operation
    let (last, answers) := run next operations
    (last, answer :: answers)

variable {cursor : Cursor} {index : Int}

theorem charAt_of_lt (below : index < -cursor.length) :
    cursor.charAt index = .error .outOfRange := by
  have nonneg : 0 ≤ cursor.length := Int.natCast_nonneg _
  have negative : index < 0 := by omega
  have outside : index + cursor.length < 0 := by omega
  simp only [charAt, if_pos negative, if_pos outside]

theorem exists_charAt (low : -cursor.length ≤ index) (high : index < cursor.length) :
    ∃ c, cursor.charAt index = .ok c := by
  obtain ⟨position, resolved, inside⟩ : ∃ position : Nat,
      (if index < 0 then index + cursor.length else index) = position ∧
        position < cursor.source.length := by
    have nonneg : 0 ≤ (if index < 0 then index + cursor.length else index) := by
      split <;> omega
    obtain ⟨position, resolved⟩ := Int.eq_ofNat_of_zero_le nonneg
    refine ⟨position, resolved, ?_⟩
    have within : (if index < 0 then index + cursor.length else index) < cursor.length := by
      split <;> omega
    rw [resolved, length] at within
    omega
  refine ⟨cursor.source[position], ?_⟩
  have in_source : ¬(position : Int) < 0 := by omega
  simp only [charAt, resolved, if_neg in_source, Int.toNat_natCast,
    List.getElem?_eq_getElem inside]

theorem accessAt_eq (cursor : Cursor) (distance : Int) :
    cursor.accessAt distance = .ok (cursor.peekAt distance) := by
  unfold accessAt peekAt
  dsimp only
  by_cases before : cursor.offset + distance < 0
  · rw [if_pos (Or.inl before), if_pos before]
  · rw [if_neg before]
    obtain ⟨position, reached⟩ := Int.eq_ofNat_of_zero_le (Int.not_lt.mp before)
    rw [reached, Int.toNat_natCast]
    by_cases beyond : cursor.length ≤ (position : Int)
    · rw [if_pos (Or.inr beyond), List.getElem?_eq_none (Int.ofNat_le.mp beyond)]
    · have inside : position < cursor.source.length := by
        rw [length] at beyond
        omega
      have in_source : ¬(position : Int) < 0 := by omega
      rw [if_neg (by omega), List.getElem?_eq_getElem inside]
      simp only [charAt, if_neg in_source, Int.toNat_natCast, List.getElem?_eq_getElem inside]
      rfl

theorem peek_of_lt (below : cursor.offset < -cursor.length) :
    cursor.peek = .error .outOfRange := by
  have nonneg : 0 ≤ cursor.length := Int.natCast_nonneg _
  have remaining : cursor.hasRemaining = true := by
    simp only [hasRemaining, decide_eq_true_eq]
    omega
  rw [peek, if_pos remaining, charAt_of_lt below]
  rfl

theorem exists_peek (inside : -cursor.length ≤ cursor.offset) :
    ∃ c, cursor.peek = .ok c := by
  by_cases remaining : cursor.hasRemaining = true
  · have before : cursor.offset < cursor.length := by simpa [hasRemaining] using remaining
    obtain ⟨c, found⟩ := exists_charAt inside before
    rw [peek, if_pos remaining, found]
    exact ⟨some c, rfl⟩
  · rw [peek, if_neg remaining]
    exact ⟨none, rfl⟩

theorem atPreservedSpace_of_lt (below : cursor.offset < -cursor.length) (options : SkipOptions) :
    cursor.atPreservedSpace options =
      if options.preserveSingle = true ∧ cursor.length = 0 ∧ cursor.offset = -1 then
        .error .outOfRange
      else .ok false := by
  have nonneg : 0 ≤ cursor.length := Int.natCast_nonneg _
  have single : cursor.remainingLength = 1 ↔ cursor.length = 0 ∧ cursor.offset = -1 := by
    rw [remainingLength]
    omega
  unfold atPreservedSpace
  rw [peek_of_lt below]
  by_cases alone : options.preserveSingle = true ∧ cursor.remainingLength = 1
  · rw [if_pos (by simpa using alone), if_pos ⟨alone.1, single.mp alone.2⟩]
    rfl
  · rw [if_neg (by simpa using alone), if_neg fun both => alone ⟨both.1, single.mpr both.2⟩]

theorem exists_atPreservedSpace (inside : -cursor.length ≤ cursor.offset) (options : SkipOptions) :
    ∃ preserved, cursor.atPreservedSpace options = .ok preserved := by
  obtain ⟨c, found⟩ := exists_peek inside
  unfold atPreservedSpace
  rw [found]
  split
  · exact ⟨c == some ' ', rfl⟩
  · exact ⟨false, rfl⟩

private theorem skipOn_stop {options : SkipOptions} {skipped : Nat}
    (ended : ¬(options.maxCount.all ((skipped : Int) < ·) = true ∧ cursor.offset < cursor.length)) :
    skipOn options skipped cursor = (cursor, .ok ()) := by
  rw [skipOn, if_neg ended]

private theorem skipOn_step {options : SkipOptions} {skipped : Nat} {c : Char}
    (allowed : options.maxCount.all ((skipped : Int) < ·) = true)
    (before : cursor.offset < cursor.length) (found : cursor.charAt cursor.offset = .ok c) :
    skipOn options skipped cursor =
      if skips options c then skipOn options (skipped + 1) (cursor.moved 1)
      else (cursor, .ok ()) := by
  rw [skipOn, if_pos ⟨allowed, before⟩]
  simp only [found]

private theorem skipAtMost_step {options : SkipOptions} {count : Nat} {c : Char}
    (found : cursor.charAt cursor.offset = .ok c) :
    skipAtMost options (count + 1) cursor =
      if skips options c then skipAtMost options count (cursor.moved 1) else .ok cursor := by
  rw [skipAtMost, found]
  rfl

private theorem skipOn_eq (options : SkipOptions) {skipped budget toEnd : Nat}
    (inside : -cursor.length ≤ cursor.offset) (measured : cursor.remainingLength.toNat = toEnd)
    (allowed : ∀ more < toEnd,
      options.maxCount.all (((skipped + more : Nat) : Int) < ·) = true ↔ more < budget) :
    ∃ count ≤ toEnd, skipOn options skipped cursor = (cursor.moved count, .ok ()) ∧
      skipAtMost options (min budget toEnd) cursor = .ok (cursor.moved count) := by
  rw [remainingLength] at measured
  have stays : cursor.moved ((0 : Nat) : Int) = cursor := moved_zero cursor
  induction toEnd generalizing cursor skipped budget with
  | zero =>
    have ended : ¬cursor.offset < cursor.length := by omega
    refine ⟨0, Nat.le_refl _, ?_, ?_⟩
    · rw [skipOn_stop fun both => ended both.2, stays]
    · rw [Nat.min_zero, skipAtMost, stays]
  | succ toEnd ih =>
    have before : cursor.offset < cursor.length := by omega
    obtain ⟨c, found⟩ := exists_charAt inside before
    have now := allowed 0 (Nat.succ_pos _)
    rw [Nat.add_zero] at now
    cases budget with
    | zero =>
      have spent := mt now.mp (Nat.lt_irrefl 0)
      refine ⟨0, Nat.zero_le _, ?_, ?_⟩
      · rw [skipOn_stop fun both => spent both.1, stays]
      · rw [Nat.zero_min, skipAtMost, stays]
    | succ budget =>
      rw [skipOn_step (now.mpr (Nat.succ_pos _)) before found, Nat.succ_min_succ,
        skipAtMost_step found]
      by_cases passes : skips options c = true
      · rw [if_pos passes, if_pos passes]
        have inside_next : -(cursor.moved 1).length ≤ (cursor.moved 1).offset := by
          rw [moved_length, moved_offset]
          omega
        have measured_next : ((cursor.moved 1).length - (cursor.moved 1).offset).toNat = toEnd := by
          rw [moved_length, moved_offset]
          omega
        have allowed_next : ∀ more < toEnd,
            options.maxCount.all (((skipped + 1 + more : Nat) : Int) < ·) = true ↔
              more < budget := by
          intro more few
          have count : skipped + 1 + more = skipped + (more + 1) := by omega
          rw [count]
          exact (allowed (more + 1) (Nat.succ_lt_succ few)).trans Nat.succ_lt_succ_iff
        obtain ⟨count, few, stepped, counted⟩ :=
          ih inside_next measured_next allowed_next (moved_zero _)
        have total : (1 : Int) + count = (count + 1 : Nat) := by omega
        rw [moved_moved, total] at stepped counted
        exact ⟨count + 1, Nat.succ_le_succ few, stepped, counted⟩
      · rw [if_neg passes, if_neg passes]
        exact ⟨0, Nat.zero_le _, by rw [stays], by rw [stays]⟩

private theorem lt_limit_iff (options : SkipOptions) {count toEnd : Nat} (before : count < toEnd) :
    count < (options.maxCount.map Int.toNat).getD toEnd ↔
      options.maxCount.all ((count : Int) < ·) = true := by
  cases options.maxCount with
  | none => simpa using before
  | some limit =>
    simp only [Option.map_some, Option.getD_some, Option.all_some, decide_eq_true_eq]
    omega

private theorem skipWhitespace_of_not_preserved {options : SkipOptions}
    (tested : cursor.atPreservedSpace options = .ok false) :
    cursor.skipWhitespace options =
      skipAtMost options (min ((options.maxCount.map Int.toNat).getD cursor.remainingLength.toNat)
        cursor.remainingLength.toNat) cursor := by
  rw [skipWhitespace, tested]
  rfl

private theorem remainingLength_pos (below : cursor.offset < -cursor.length) :
    0 < cursor.remainingLength.toNat := by
  have nonneg : 0 ≤ cursor.length := Int.natCast_nonneg _
  rw [remainingLength]
  omega

private theorem exists_skip (inside : -cursor.length ≤ cursor.offset) (options : SkipOptions) :
    ∃ count : Nat, cursor.offset + count ≤ max cursor.offset cursor.length ∧
      cursor.skip options = (cursor.moved count, .ok ()) ∧
      cursor.skipWhitespace options = .ok (cursor.moved count) := by
  have stays : cursor.moved ((0 : Nat) : Int) = cursor := moved_zero cursor
  obtain ⟨preserved, tested⟩ := exists_atPreservedSpace inside options
  cases preserved with
  | true =>
    refine ⟨0, by omega, ?_, ?_⟩
    · simp only [skip, tested, stays]
    · rw [skipWhitespace, tested, stays]
      rfl
  | false =>
    obtain ⟨count, few, stepped, counted⟩ := skipOn_eq options inside rfl fun more before => by
      rw [Nat.zero_add]
      exact (lt_limit_iff options before).symm
    refine ⟨count, ?_, ?_, ?_⟩
    · rw [remainingLength] at few
      omega
    · simp only [skip, tested, stepped]
    · rw [skipWhitespace_of_not_preserved tested, counted]

theorem skip_of_not_fails {options : SkipOptions}
    (holds : ¬(Operation.skip options).Fails cursor.length cursor.offset) :
    ∃ count : Nat, cursor.offset + count ≤ max cursor.offset cursor.length ∧
      cursor.skip options = (cursor.moved count, .ok ()) ∧
      cursor.skipWhitespace options = .ok (cursor.moved count) := by
  by_cases below : cursor.offset < -cursor.length
  · -- Then it may pass over no character, and it does not look for a space to be preserved.
    have spent := mt (fun allowed => ⟨below, Or.inl allowed⟩) holds
    have alone := mt (fun alone => ⟨below, Or.inr alone⟩) holds
    have tested := atPreservedSpace_of_lt below options
    rw [if_neg alone] at tested
    have stays : cursor.moved ((0 : Nat) : Int) = cursor := moved_zero cursor
    refine ⟨0, by omega, ?_, ?_⟩
    · simp only [skip, tested]
      rw [skipOn_stop fun both => spent both.1, stays]
    · have some_left := remainingLength_pos below
      have limit := Nat.eq_zero_of_not_pos (mt (lt_limit_iff options some_left).mp spent)
      rw [skipWhitespace_of_not_preserved tested, limit, Nat.zero_min, skipAtMost, stays]
  · exact exists_skip (Int.not_lt.mp below) options

theorem skip_of_fails {options : SkipOptions}
    (fails : (Operation.skip options).Fails cursor.length cursor.offset) :
    cursor.skip options = (cursor, .error .outOfRange) ∧
      cursor.skipWhitespace options = .error .outOfRange := by
  obtain ⟨below, reads⟩ := fails
  have tested := atPreservedSpace_of_lt below options
  by_cases alone : options.preserveSingle = true ∧ cursor.length = 0 ∧ cursor.offset = -1
  · rw [if_pos alone] at tested
    constructor
    · simp only [skip, tested]
    · rw [skipWhitespace, tested]
      rfl
  · rw [if_neg alone] at tested
    have allowed := reads.resolve_right alone
    have nonneg : 0 ≤ cursor.length := Int.natCast_nonneg _
    constructor
    · simp only [skip, tested]
      rw [skipOn, if_pos ⟨allowed, by omega⟩, charAt_of_lt below]
    · have some_left := remainingLength_pos below
      have some_count := Nat.lt_min.mpr ⟨(lt_limit_iff options some_left).mpr allowed, some_left⟩
      obtain ⟨count, counted⟩ := Nat.exists_eq_succ_of_ne_zero (Nat.ne_of_gt some_count)
      rw [skipWhitespace_of_not_preserved tested, counted, skipAtMost, charAt_of_lt below]
      rfl

/-- An operation is all or nothing: performed step by step, it leads where the operation as a whole
leads, and if that fails, it leads nowhere. -/
theorem perform_eq_apply (cursor : Cursor) (operation : Operation) :
    cursor.perform operation =
      match cursor.apply operation with
      | .ok (next, reply) => (next, .ok reply)
      | .error cause => (cursor, .error cause) := by
  cases operation with
  | peek =>
    simp only [perform, apply]
    cases cursor.peek <;> rfl
  | peekAt distance =>
    simp only [perform, apply, accessAt_eq]
    rfl
  | skip options =>
    by_cases fails : (Operation.skip options).Fails cursor.length cursor.offset
    · obtain ⟨stepped, whole⟩ := skip_of_fails fails
      simp only [perform, apply, stepped, whole]
      rfl
    · obtain ⟨count, -, stepped, whole⟩ := skip_of_not_fails fails
      simp only [perform, apply, stepped, whole]
      rfl
  | peekText | remaining | remainingLength | hasRemaining | location | advance | retreat | read =>
    rfl

theorem exists_perform_moved (cursor : Cursor) (operation : Operation) :
    ∃ count : Int, (cursor.perform operation).1 = cursor.moved count := by
  have advanced : ∀ count, ∃ distance : Int, cursor.advance count = cursor.moved distance := by
    intro count
    unfold advance
    split
    · exact ⟨0, (moved_zero cursor).symm⟩
    · exact ⟨count, rfl⟩
  cases operation with
  | advance count | read count => exact advanced count
  | retreat count =>
    have reached : cursor.offset + (max 0 (cursor.offset - count) - cursor.offset) =
        max 0 (cursor.offset - count) := by omega
    refine ⟨max 0 (cursor.offset - count) - cursor.offset, ?_⟩
    simp only [perform, retreat, moved, reached]
  | skip options =>
    by_cases fails : (Operation.skip options).Fails cursor.length cursor.offset
    · refine ⟨0, ?_⟩
      simp only [perform, (skip_of_fails fails).1, moved_zero]
    · obtain ⟨count, -, stepped, -⟩ := skip_of_not_fails fails
      refine ⟨count, ?_⟩
      simp only [perform, stepped]
  | peek | peekAt | peekText | remaining | remainingLength | hasRemaining | location =>
    exact ⟨0, (moved_zero cursor).symm⟩

theorem exists_run_moved (cursor : Cursor) (operations : List Operation) :
    ∃ count : Int, (cursor.run operations).1 = cursor.moved count := by
  induction operations generalizing cursor with
  | nil => exact ⟨0, (moved_zero cursor).symm⟩
  | cons operation operations ih =>
    obtain ⟨first, step⟩ := exists_perform_moved cursor operation
    obtain ⟨rest, steps⟩ := ih (cursor.moved first)
    refine ⟨first + rest, ?_⟩
    simp only [run, step, steps, moved_moved]

end LineMark.Cursor
