import LineMark.Proofs.Machine.Plan

/-!
Single cycles of a scan. A machine inside its source meets the end of the source, or it dispatches a
character and takes the piece that stands there (`exhausts_or_dispatches`); a cycle does nothing
else (`cycle_cases`).
-/

set_option autoImplicit false
set_option relaxedAutoImplicit false

namespace LineMark.Machine

open Piece (Stands)

structure Exhausts (gap : SkipOptions) (machine there last : Machine) : Prop where
  scanning : machine.status = .scanning
  passed : machine.perform (.skip gap) = .ok there
  met : there.cursor.peek = .ok none
  ended : there.perform .terminate = .ok last

variable {gap : SkipOptions} {mode : Mode} {cursor : Cursor} {tokens : Array Token}
  {log : List Log.Record} {before after tail : Text} {head : Char} {piece : Piece}
  {machine there next last : Machine}

theorem exists_cursor_of_skip (passed : machine.perform (.skip gap) = .ok there) :
    ∃ cursor, machine.cursor.skipWhitespace gap = .ok cursor ∧
      there = { machine with cursor := cursor } := by
  simp only [perform] at passed
  cases skipped : machine.cursor.skipWhitespace gap with
  | error cause =>
    rw [skipped] at passed
    cases passed
  | ok cursor =>
    rw [skipped] at passed
    exact ⟨cursor, rfl, (Except.ok.inj passed).symm⟩

theorem take_of_width {width : Nat} (goes : piece.width? = some width) :
    take ⟨cursor, tokens, .scanning, log⟩ piece =
      ⟨cursor.moved (width + 1 : Nat), (take ⟨cursor, tokens, .scanning, log⟩ piece).tokens,
        .scanning, log⟩ := by
  cases piece with
  | gap => cases goes; rfl
  | lexeme kind text place width => cases goes; rfl
  | marker | fault => cases goes

theorem status_take_of_end (ends : piece.width? = none) (cursor : Cursor) (tokens : Array Token)
    (log : List Log.Record) :
    (take ⟨cursor, tokens, .scanning, log⟩ piece).status ≠ .scanning := by
  cases piece with
  | gap | lexeme => cases ends
  | marker | fault => simp [take, failWith]

private theorem perform_gap (gap : SkipOptions) (splits : cursor.Splits before after) :
    perform ⟨cursor, tokens, .scanning, log⟩ (.skip gap) =
      .ok ⟨cursor.moved (Cursor.skipLength gap after), tokens, .scanning, log⟩ := by
  simp only [perform, splits.skipWhitespace_eq gap]
  rfl

theorem exhausts_of_end (gap : SkipOptions) (tokens : Array Token) (log : List Log.Record)
    (splits : cursor.Splits before after)
    (ends : after.drop (Cursor.skipLength gap after) = []) :
    Exhausts gap ⟨cursor, tokens, .scanning, log⟩
      ⟨cursor.moved (Cursor.skipLength gap after), tokens, .scanning, log⟩
      ⟨cursor.moved (Cursor.skipLength gap after), tokens, .terminated, log⟩ where
  scanning := rfl
  passed := perform_gap gap splits
  met := by
    have peeked := (splits.moved_drop (Cursor.skipLength_le gap after)).peek_eq
    rwa [ends] at peeked
  ended := rfl

theorem Exhausts.blank (exhausts : Exhausts gap machine there last)
    (splits : machine.cursor.Splits before after) :
    ∀ c ∈ after, Unicode.isWhitespace c = true := by
  obtain ⟨cursor, tokens, status, log⟩ := machine
  obtain rfl : status = .scanning := exhausts.scanning
  have passed : ∀ c ∈ after.take (Cursor.skipLength gap after), Unicode.isWhitespace c = true :=
    fun _ => Cursor.isWhitespace_of_mem_take_skipLength
  cases meets : after.drop (Cursor.skipLength gap after) with
  | nil => rwa [List.take_of_length_le (List.drop_eq_nil_iff.mp meets)] at passed
  | cons head tail =>
    have there := splits.moved_drop (Cursor.skipLength_le gap after)
    rw [meets] at there
    obtain rfl := Except.ok.inj ((perform_gap gap splits).symm.trans exhausts.passed)
    cases Except.ok.inj (exhausts.met.symm.trans there.peek_eq)

variable [Unicode.Database]

/-- A cycle that meets a character: past the gap the character is dispatched, its scanner does the
acts, and the cursor is advanced by one. -/
structure Dispatches (gap : SkipOptions) (mode : Mode) (machine there : Machine) (head : Char)
    (acts : List Act) (next : Machine) : Prop where
  scanning : machine.status = .scanning
  passed : machine.perform (.skip gap) = .ok there
  met : there.cursor.peek = .ok (some head)
  traced : (scanner mode head).trace there = .ok acts
  carried : there.performAll (acts ++ [.advance 1]) = .ok next

theorem Dispatches.cycle_eq {acts : List Act}
    (dispatches : Dispatches gap mode machine there head acts next) :
    machine.cycle gap mode = .ok next := by
  have scanning : there.status = .scanning := by
    obtain ⟨cursor, -, rfl⟩ := exists_cursor_of_skip dispatches.passed
    exact dispatches.scanning
  rw [cycle, dispatches.passed]
  change (there.cursor.peek >>= _) = _
  rw [dispatches.met]
  change there.dispatch mode head = _
  rw [dispatch_eq_performAll scanning dispatches.traced, dispatches.carried]

theorem Exhausts.cycle_eq (exhausts : Exhausts gap machine there last) :
    machine.cycle gap mode = .ok last := by
  rw [cycle, exhausts.passed]
  change (there.cursor.peek >>= _) = _
  rw [exhausts.met]
  exact exhausts.ended

theorem Dispatches.unique {other_there other_next : Machine} {other_head : Char}
    {acts other_acts : List Act} (first : Dispatches gap mode machine there head acts next)
    (second : Dispatches gap mode machine other_there other_head other_acts other_next) :
    there = other_there ∧ head = other_head ∧ acts = other_acts ∧ next = other_next := by
  obtain rfl := Except.ok.inj (first.passed.symm.trans second.passed)
  obtain rfl := Option.some.inj (Except.ok.inj (first.met.symm.trans second.met))
  obtain rfl := Except.ok.inj (first.traced.symm.trans second.traced)
  exact ⟨rfl, rfl, rfl, Except.ok.inj (first.carried.symm.trans second.carried)⟩

theorem exists_dispatches (gap : SkipOptions) (tokens : Array Token) (log : List Log.Record)
    (splits : cursor.Splits before after)
    (meets : after.drop (Cursor.skipLength gap after) = head :: tail)
    (stands : Stands mode head tail piece) :
    ∃ acts, Dispatches gap mode ⟨cursor, tokens, .scanning, log⟩
      ⟨cursor.moved (Cursor.skipLength gap after), tokens, .scanning, log⟩ head acts
      (take ⟨cursor.moved (Cursor.skipLength gap after), tokens, .scanning, log⟩ piece) := by
  have there := splits.moved_drop (Cursor.skipLength_le gap after)
  rw [meets] at there
  obtain ⟨acts, planned, carried⟩ := performAll_plan tokens log there stands
  exact ⟨acts, rfl, perform_gap gap splits, there.peek_eq, (trace_scanner rfl there).trans planned,
    carried⟩

theorem exhausts_or_dispatches (gap : SkipOptions) (mode : Mode)
    (splits : machine.cursor.Splits before after) (scanning : machine.status = .scanning) :
    (∃ there last, Exhausts gap machine there last) ∨
      ∃ there head acts next, Dispatches gap mode machine there head acts next := by
  obtain ⟨cursor, tokens, status, log⟩ := machine
  subst scanning
  cases meets : after.drop (Cursor.skipLength gap after) with
  | nil => exact Or.inl ⟨_, _, exhausts_of_end gap tokens log splits meets⟩
  | cons head tail =>
    obtain ⟨acts, dispatches⟩ :=
      exists_dispatches gap tokens log splits meets (Piece.stands_ofText mode head tail)
    exact Or.inr ⟨_, _, _, _, dispatches⟩

/-- What a cycle inside a source leads to, it leads to in one of the two ways. -/
theorem cycle_cases (splits : machine.cursor.Splits before after)
    (scanning : machine.status = .scanning) (ran : machine.cycle gap mode = .ok next) :
    (∃ there, Exhausts gap machine there next) ∨
      ∃ there head acts, Dispatches gap mode machine there head acts next := by
  rcases exhausts_or_dispatches gap mode splits scanning with
    ⟨there, last, exhausts⟩ | ⟨there, head, acts, last, dispatches⟩
  · obtain rfl := Except.ok.inj (exhausts.cycle_eq.symm.trans ran)
    exact Or.inl ⟨there, exhausts⟩
  · obtain rfl := Except.ok.inj (dispatches.cycle_eq.symm.trans ran)
    exact Or.inr ⟨there, head, acts, dispatches⟩

theorem Dispatches.exists_tail {acts : List Act}
    (dispatches : Dispatches gap mode machine there head acts next)
    (splits : machine.cursor.Splits before after) :
    ∃ tail, after.drop (Cursor.skipLength gap after) = head :: tail ∧
      there = ⟨machine.cursor.moved (Cursor.skipLength gap after), machine.tokens,
        .scanning, machine.log⟩ ∧
      next = there.take (Piece.ofText mode head tail) := by
  obtain ⟨cursor, tokens, status, log⟩ := machine
  obtain rfl : status = .scanning := dispatches.scanning
  cases meets : after.drop (Cursor.skipLength gap after) with
  | nil =>
    have exhausts := exhausts_of_end gap tokens log splits meets
    obtain rfl := Except.ok.inj (exhausts.passed.symm.trans dispatches.passed)
    cases Except.ok.inj (exhausts.met.symm.trans dispatches.met)
  | cons first tail =>
    have stands := Piece.stands_ofText mode first tail
    obtain ⟨planned, same⟩ := exists_dispatches gap tokens log splits meets stands
    obtain ⟨rfl, rfl, -, rfl⟩ := dispatches.unique same
    exact ⟨tail, rfl, rfl, rfl⟩

theorem Dispatches.exists_piece {acts : List Act}
    (dispatches : Dispatches gap mode machine there head acts next)
    (splits : machine.cursor.Splits before after) :
    ∃ blanks tail piece, after = blanks ++ head :: tail ∧
      (∀ c ∈ blanks, Unicode.isWhitespace c = true) ∧
      there = ⟨machine.cursor.moved blanks.length, machine.tokens,
        .scanning, machine.log⟩ ∧
      Stands mode head tail piece ∧ next = there.take piece := by
  obtain ⟨tail, meets, passed, taken⟩ := dispatches.exists_tail splits
  have length := List.length_take_of_le (Cursor.skipLength_le gap after)
  refine ⟨after.take (Cursor.skipLength gap after), tail, Piece.ofText mode head tail, ?_, ?_, ?_,
    Piece.stands_ofText mode head tail, taken⟩
  · rw [← meets, List.take_append_drop]
  · exact fun _ => Cursor.isWhitespace_of_mem_take_skipLength
  · rw [length, passed]

end LineMark.Machine
