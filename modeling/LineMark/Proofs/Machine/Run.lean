import LineMark.Proofs.Machine.Cycle
import LineMark.Proofs.Reading.Basic

/-!
Runs of the machine as readings. Whatever gap the cycles pass over, the machine ends where it gets
by taking the pieces of the reading one after another (`cycles_eq`), and then holds what the reading
amounts to (`follows_takeAll`).
-/

set_option autoImplicit false
set_option relaxedAutoImplicit false

namespace LineMark.Machine

open Piece (Stands)

def takeAll (machine : Machine) (reading : Reading) : Machine :=
  reading.foldl (fun machine entry => machine.take entry.2) machine

def exhaust (machine : Machine) : Machine :=
  match machine.status with
  | .scanning => { machine with status := .terminated }
  | _ => machine

/-- The machine holds what a reading of the rest of its source amounts to, after some earlier
tokens. -/
structure Follows (machine : Machine) (source : Text) (file : Option Text) (earlier : List Token)
    (reading : Reading) : Prop where
  tokens_eq : machine.tokens.toList = earlier ++ reading.tokens source file
  status_eq : machine.status = reading.status source file
  source_eq : machine.cursor.source = source
  file_eq : machine.cursor.file = file
  offset_eq : machine.status = .scanning → machine.cursor.offset = (source.length : Int)

variable {mode : Mode} {cursor : Cursor} {tokens : Array Token} {log : List Log.Record}
  {before after : Text}

private theorem takeAll_gaps {gaps : Reading} (all_gaps : ∀ entry ∈ gaps, entry.2 = .gap) :
    takeAll ⟨cursor, tokens, .scanning, log⟩ gaps =
      ⟨cursor.moved gaps.length, tokens, .scanning, log⟩ := by
  induction gaps generalizing cursor with
  | nil => simp [takeAll]
  | cons entry gaps ih =>
    have here : entry.2 = .gap := all_gaps entry (by simp)
    have taken : takeAll ⟨cursor, tokens, .scanning, log⟩ (entry :: gaps) =
        takeAll ⟨cursor.moved 1, tokens, .scanning, log⟩ gaps := by
      change takeAll (take _ entry.2) gaps = _
      rw [here]
      rfl
    have count : (1 : Int) + gaps.length = (gaps.length + 1 : Nat) := by omega
    rw [taken, ih fun entry member => all_gaps entry (by simp [member]), Cursor.moved_moved, count,
      List.length_cons]

private theorem exhaust_of_status_ne {machine : Machine} (stopped : machine.status ≠ .scanning) :
    machine.exhaust = machine := by
  unfold exhaust
  split
  · contradiction
  · rfl

private theorem tokens_take (splits : cursor.Splits before after) (piece : Piece) :
    (take ⟨cursor, tokens, .scanning, log⟩ piece).tokens.toList =
      tokens.toList ++
        (Reading.token? cursor.source cursor.file (before.length, piece)).toList := by
  have located : ∀ place : Nat, (cursor.moved place).location =
      .ofOffset cursor.source (before.length + place : Nat) cursor.file := by
    intro place
    simp [Cursor.location, splits.offset]
  cases piece with
  | gap | fault => simp [take, failWith, Reading.token?]
  | lexeme kind text place width | marker kind text place =>
    simp [take, Reading.token?, located place]

private theorem status_take (splits : cursor.Splits before after) (piece : Piece) :
    (take ⟨cursor, tokens, .scanning, log⟩ piece).status =
      Reading.status cursor.source cursor.file [(before.length, piece)] := by
  cases piece with
  | gap | lexeme | marker => rfl
  | fault fault place => simp [take, failWith, Reading.status, Cursor.location, splits.offset]

private theorem source_take (piece : Piece) :
    (take ⟨cursor, tokens, .scanning, log⟩ piece).cursor.source = cursor.source := by
  cases piece <;> rfl

private theorem file_take (piece : Piece) :
    (take ⟨cursor, tokens, .scanning, log⟩ piece).cursor.file = cursor.file := by
  cases piece <;> rfl

variable [Unicode.Database]

/-- A gap of white space is read as gaps, so that it matters to no scan how much of it the machine
skips and how much it meets. -/
private theorem takeAll_blanks {blanks : Text} (blank : ∀ c ∈ blanks, Unicode.isWhitespace c = true)
    (rest : Text) (offset : Nat) :
    takeAll ⟨cursor, tokens, .scanning, log⟩ (Reading.ofText mode offset (blanks ++ rest)) =
      takeAll ⟨cursor.moved blanks.length, tokens, .scanning, log⟩
        (Reading.ofText mode (offset + blanks.length) rest) := by
  obtain ⟨gaps, length, all_gaps, read⟩ := Reading.exists_gaps mode blank rest offset
  have split : takeAll ⟨cursor, tokens, .scanning, log⟩
      (gaps ++ Reading.ofText mode (offset + blanks.length) rest) =
        takeAll (takeAll ⟨cursor, tokens, .scanning, log⟩ gaps)
          (Reading.ofText mode (offset + blanks.length) rest) := List.foldl_append
  rw [read, split, takeAll_gaps all_gaps, length]

private theorem takeAll_gap (gap : SkipOptions) (offset : Nat) (after : Text) :
    takeAll ⟨cursor, tokens, .scanning, log⟩ (Reading.ofText mode offset after) =
      takeAll ⟨cursor.moved (Cursor.skipLength gap after), tokens, .scanning, log⟩
        (Reading.ofText mode (offset + Cursor.skipLength gap after)
          (after.drop (Cursor.skipLength gap after))) := by
  have blank : ∀ c ∈ after.take (Cursor.skipLength gap after), Unicode.isWhitespace c = true :=
    fun _ => Cursor.isWhitespace_of_mem_take_skipLength
  have taken : (after.take (Cursor.skipLength gap after)).length = Cursor.skipLength gap after :=
    List.length_take_of_le (Cursor.skipLength_le gap after)
  have passed : takeAll ⟨cursor, tokens, .scanning, log⟩
      (Reading.ofText mode offset (after.take (Cursor.skipLength gap after) ++
        after.drop (Cursor.skipLength gap after))) = _ :=
    takeAll_blanks blank (after.drop (Cursor.skipLength gap after)) offset
  rwa [List.take_append_drop, taken] at passed

theorem cycles_of_status_ne {machine : Machine} (stopped : machine.status ≠ .scanning)
    (gap : SkipOptions) (limit : Nat) : cycles gap mode limit machine = .ok machine := by
  cases limit with
  | zero => rfl
  | succ limit =>
    unfold cycles
    split
    · contradiction
    · rfl

/-- The cycles of a machine take the pieces of the unread text, whatever gap they pass over. -/
theorem cycles_eq (gap : SkipOptions) (mode : Mode) (tokens : Array Token)
    (log : List Log.Record) (limit : Nat) (splits : cursor.Splits before after)
    (enough : after.length < limit) (offset : Nat) :
    cycles gap mode limit ⟨cursor, tokens, .scanning, log⟩ =
      .ok
        (takeAll ⟨cursor, tokens, .scanning, log⟩ (Reading.ofText mode offset after)).exhaust := by
  induction limit generalizing cursor tokens before after offset with
  | zero => cases enough
  | succ limit ih =>
    -- The white space that this cycle skips is read as gaps, so both sides start after it.
    rw [takeAll_gap gap offset after]
    change (cycle gap mode ⟨cursor, tokens, .scanning, log⟩ >>= cycles gap mode limit) = _
    have there := splits.moved_drop (Cursor.skipLength_le gap after)
    cases meets : after.drop (Cursor.skipLength gap after) with
    | nil =>
      rw [(exhausts_of_end gap tokens log splits meets).cycle_eq, Reading.ofText_nil]
      exact cycles_of_status_ne (by simp) gap limit
    | cons head tail =>
      have stands := Piece.stands_ofText mode head tail
      obtain ⟨acts, dispatches⟩ := exists_dispatches gap tokens log splits meets stands
      rw [dispatches.cycle_eq]
      change cycles gap mode limit _ = _
      rw [meets] at there
      cases goes : (Piece.ofText mode head tail).width? with
      | none =>
        have stopped := status_take_of_end goes
          (cursor.moved (Cursor.skipLength gap after)) tokens log
        rw [Reading.ofText_of_end stands goes, cycles_of_status_ne stopped]
        change _ = Except.ok (exhaust (take _ _))
        rw [exhaust_of_status_ne stopped]
      | some width =>
        have shorter : tail.length + 1 ≤ after.length := by
          rw [← List.length_cons, ← meets, List.length_drop]
          omega
        have next := there.moved_drop (Nat.succ_le_succ (stands.width_le goes))
        rw [Reading.ofText_of_width stands goes]
        change _ = Except.ok (exhaust (takeAll (take _ _) _))
        rw [take_of_width goes]
        exact ih _ next (by rw [List.length_drop, List.length_cons]; omega) _

theorem follows_takeAll (mode : Mode) (tokens : Array Token) (log : List Log.Record)
    (splits : cursor.Splits before after) :
    (takeAll ⟨cursor, tokens, .scanning, log⟩ (Reading.ofText mode before.length after)).Follows
      cursor.source cursor.file tokens.toList (Reading.ofText mode before.length after) := by
  generalize start : before.length = offset
  induction offset, after using Reading.induction mode generalizing cursor tokens before with
  | nil offset =>
    rw [Reading.ofText_nil]
    refine ⟨by simp [takeAll, Reading.tokens], rfl, rfl, rfl, fun _ => ?_⟩
    simp [takeAll, splits.offset, splits.source]
  | step offset head tail piece width stands goes ih =>
    subst start
    have inside : width + 1 ≤ (head :: tail).length := Nat.succ_le_succ (stands.width_le goes)
    have next := splits.moved_drop inside
    have count : (before ++ (head :: tail).take (width + 1)).length =
        before.length + width + 1 := by
      rw [List.length_append, List.length_take_of_le inside, Nat.add_assoc]
    have rest := ih (take ⟨cursor, tokens, .scanning, log⟩ piece).tokens next count
    rw [← take_of_width goes, Cursor.moved_source, Cursor.moved_file] at rest
    rw [Reading.ofText_of_width stands goes]
    refine ⟨?_, ?_, rest.source_eq, rest.file_eq, rest.offset_eq⟩
    · rw [Reading.tokens_cons, ← List.append_assoc, ← tokens_take splits]
      exact rest.tokens_eq
    · rw [Reading.status_cons_of_width goes]
      exact rest.status_eq
  | stop offset head tail piece stands ends =>
    subst start
    rw [Reading.ofText_of_end stands ends]
    have taken : takeAll ⟨cursor, tokens, .scanning, log⟩ [(before.length, piece)] =
        take ⟨cursor, tokens, .scanning, log⟩ piece := rfl
    rw [taken]
    refine ⟨?_, status_take splits piece, source_take piece, file_take piece, ?_⟩
    · rw [Reading.tokens_cons]
      simpa [Reading.tokens] using tokens_take splits piece
    · exact fun scanning => (status_take_of_end ends cursor tokens log scanning).elim

end LineMark.Machine
