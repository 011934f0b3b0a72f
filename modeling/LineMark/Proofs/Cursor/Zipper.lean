import LineMark.Proofs.Cursor.Operation
import Mathlib.Data.List.DropRight

/-!
Cursors as zippers. While no count is negative a cursor is a source cut in two: every operation
answers from the text before the cut and the text after it, or moves characters over the cut, and
none of them fails (`run_refines_zipper`).
-/

set_option autoImplicit false
set_option relaxedAutoImplicit false

namespace LineMark

open Cursor (Operation Reply)

/-- A text cut in two. -/
structure Zipper where
  before : Text
  after : Text

namespace Zipper

def ofText (text : Text) : Zipper where
  before := []
  after := text

def ahead (zipper : Zipper) (count : Nat) : Text :=
  if count ≤ zipper.after.length then zipper.after.take count else []

/-- The zipper with the next characters in the given number moved before the cut, or unchanged where
there are fewer. -/
def forward (zipper : Zipper) (count : Nat) : Zipper where
  before := zipper.before ++ zipper.ahead count
  after := zipper.after.drop (zipper.ahead count).length

def back (zipper : Zipper) (count : Nat) : Zipper where
  before := zipper.before.rdrop count
  after := zipper.before.rtake count ++ zipper.after

/-- The character at a distance from the cut: those behind it from zero on, and those before it from
minus one on downwards. -/
def charAt (zipper : Zipper) : Int → Option Char
  | .ofNat n => zipper.after[n]?
  | .negSucc n => zipper.before.reverse[n]?

def perform (file : Option Text) (zipper : Zipper) : Operation → Zipper × Reply
  | .peek => (zipper, .char zipper.after.head?)
  | .peekAt distance => (zipper, .char (zipper.charAt distance))
  | .peekText count => (zipper, .text (zipper.ahead count.toNat))
  | .remaining => (zipper, .text zipper.after)
  | .remainingLength => (zipper, .number zipper.after.length)
  | .hasRemaining => (zipper, .flag !zipper.after.isEmpty)
  | .location => (zipper, .place (.afterText zipper.before file))
  | .advance count => (zipper.forward count.toNat, .done)
  | .retreat count => (zipper.back count.toNat, .done)
  | .read count => (zipper.forward count.toNat, .text (zipper.ahead count.toNat))
  | .skip options => (zipper.forward (Cursor.skipLength options zipper.after), .done)

def run (file : Option Text) (zipper : Zipper) : List Operation → Zipper × List Reply
  | [] => (zipper, [])
  | operation :: operations =>
    let (next, answer) := zipper.perform file operation
    let (last, answers) := run file next operations
    (last, answer :: answers)

variable {zipper : Zipper} {count : Nat}

theorem ahead_of_le (inside : count ≤ zipper.after.length) :
    zipper.ahead count = zipper.after.take count :=
  if_pos inside

theorem ahead_of_lt (beyond : zipper.after.length < count) : zipper.ahead count = [] :=
  if_neg (Nat.not_le.mpr beyond)

theorem forward_of_le (inside : count ≤ zipper.after.length) :
    zipper.forward count =
      ⟨zipper.before ++ zipper.after.take count, zipper.after.drop count⟩ := by
  rw [forward, ahead_of_le inside, List.length_take_of_le inside]

theorem forward_of_lt (beyond : zipper.after.length < count) : zipper.forward count = zipper := by
  rw [forward, ahead_of_lt beyond, List.append_nil]
  rfl

end Zipper

namespace Cursor

def Operation.IsCounted : Operation → Prop
  | .peekText count | .advance count | .retreat count | .read count => 0 ≤ count
  | _ => True

/-- The cursor stands in its source where the zipper is cut. -/
abbrev IsCutAs (cursor : Cursor) (zipper : Zipper) : Prop :=
  cursor.Splits zipper.before zipper.after

namespace IsCutAs

variable {cursor : Cursor} {zipper : Zipper}

private theorem peekAt_eq (cut : cursor.IsCutAs zipper) (distance : Int) :
    cursor.peekAt distance = zipper.charAt distance := by
  cases distance with
  | ofNat n =>
    have position : cursor.offset + Int.ofNat n = (zipper.before.length + n : Nat) := by
      rw [cut.offset]
      rfl
    have inside : ¬((zipper.before.length + n : Nat) : Int) < 0 := by omega
    simp only [peekAt, position, if_neg inside, Int.toNat_natCast, cut.source, Zipper.charAt,
      List.getElem?_append_right (Nat.le_add_right _ n), Nat.add_sub_cancel_left]
  | negSucc n =>
    by_cases within : n < zipper.before.length
    · have position : cursor.offset + Int.negSucc n = (zipper.before.length - 1 - n : Nat) := by
        rw [cut.offset]
        omega
      have inside : ¬((zipper.before.length - 1 - n : Nat) : Int) < 0 := by omega
      have earlier : zipper.before.length - 1 - n < zipper.before.length := by omega
      simp only [peekAt, position, if_neg inside, Int.toNat_natCast, cut.source, Zipper.charAt,
        List.getElem?_append_left earlier, List.getElem?_reverse within]
    · have outside : cursor.offset + Int.negSucc n < 0 := by
        rw [cut.offset]
        omega
      have beyond : zipper.before.reverse.length ≤ n := by
        rw [List.length_reverse]
        omega
      rw [peekAt, if_pos outside, Zipper.charAt, List.getElem?_eq_none beyond]

private theorem peekText_eq (cut : cursor.IsCutAs zipper) (count : Nat) :
    cursor.peekText count = zipper.ahead count := by
  rw [peekText, cut.remainingLength_eq]
  by_cases inside : count ≤ zipper.after.length
  · have stop : cursor.offset + (count : Int) = (zipper.before.length + count : Nat) := by
      rw [cut.offset]
      rfl
    rw [if_neg (by omega), Zipper.ahead_of_le inside, stop, cut.offset, cut.source]
    simp only [Text.slice, Text.before_natCast, List.drop_left, Nat.add_sub_cancel_left]
  · rw [if_pos (by omega), Zipper.ahead_of_lt (Nat.not_le.mp inside)]

private theorem advance_eq (cut : cursor.IsCutAs zipper) (count : Nat) :
    (cursor.advance count).IsCutAs (zipper.forward count) := by
  by_cases inside : count ≤ zipper.after.length
  · rw [Splits.advance_eq cut inside, Zipper.forward_of_le inside]
    exact cut.moved_drop inside
  · rw [cut.advance_eq_self (Nat.not_le.mp inside), Zipper.forward_of_lt (Nat.not_le.mp inside)]
    exact cut

private theorem retreat (cut : cursor.IsCutAs zipper) (count : Nat) :
    (cursor.retreat count).IsCutAs (zipper.back count) where
  source := by
    simp only [Zipper.back, List.rdrop, List.rtake, ← List.append_assoc, List.take_append_drop]
    exact cut.source
  offset := by
    simp only [Cursor.retreat, Zipper.back, List.rdrop, cut.offset, List.length_take]
    omega

private theorem skip (cut : cursor.IsCutAs zipper) (options : SkipOptions) :
    ∃ next, cursor.skipWhitespace options = .ok next ∧
      next.IsCutAs (zipper.forward (skipLength options zipper.after)) := by
  have inside := skipLength_le options zipper.after
  refine ⟨_, cut.skipWhitespace_eq options, ?_⟩
  rw [Zipper.forward_of_le inside]
  exact cut.moved_drop inside

theorem perform (cut : cursor.IsCutAs zipper) {operation : Operation}
    (counted : operation.IsCounted) :
    ∃ next, cursor.perform operation =
        (next, .ok (zipper.perform cursor.file operation).2) ∧
      next.IsCutAs (zipper.perform cursor.file operation).1 := by
  rw [perform_eq_apply]
  cases operation with
  | peek =>
    simp only [apply, cut.peek_eq]
    exact ⟨cursor, rfl, cut⟩
  | peekAt distance =>
    simp only [apply, peekAt_eq cut]
    exact ⟨cursor, rfl, cut⟩
  | peekText count =>
    obtain ⟨count, rfl⟩ := Int.eq_ofNat_of_zero_le counted
    simp only [apply, peekText_eq cut]
    exact ⟨cursor, rfl, cut⟩
  | remaining =>
    simp only [apply, cut.remaining_eq]
    exact ⟨cursor, rfl, cut⟩
  | remainingLength =>
    simp only [apply, cut.remainingLength_eq]
    exact ⟨cursor, rfl, cut⟩
  | hasRemaining =>
    have same : cursor.hasRemaining = !zipper.after.isEmpty := by
      rw [hasRemaining, cut.length_eq, cut.offset]
      cases zipper.after with
      | nil => simp
      | cons c rest =>
        simp only [List.length_cons, List.isEmpty_cons, Bool.not_false, decide_eq_true_eq]
        omega
    simp only [apply, same]
    exact ⟨cursor, rfl, cut⟩
  | location =>
    have place : cursor.location = .afterText zipper.before cursor.file := by
      simp only [location, Location.ofOffset, Text.upTo, cut.source, cut.offset,
        Text.before_natCast, List.take_left]
    simp only [apply, place]
    exact ⟨cursor, rfl, cut⟩
  | advance count =>
    obtain ⟨count, rfl⟩ := Int.eq_ofNat_of_zero_le counted
    exact ⟨cursor.advance count, rfl, advance_eq cut count⟩
  | retreat count =>
    obtain ⟨count, rfl⟩ := Int.eq_ofNat_of_zero_le counted
    exact ⟨cursor.retreat count, rfl, retreat cut count⟩
  | read count =>
    obtain ⟨count, rfl⟩ := Int.eq_ofNat_of_zero_le counted
    refine ⟨cursor.advance count, ?_, advance_eq cut count⟩
    simp only [apply, Cursor.read, peekText_eq cut]
    rfl
  | skip options =>
    obtain ⟨next, skipped, moved⟩ := skip cut options
    refine ⟨next, ?_, moved⟩
    simp only [apply, skipped]
    rfl

theorem run (cut : cursor.IsCutAs zipper) {operations : List Operation}
    (counted : ∀ operation ∈ operations, operation.IsCounted) :
    ∃ last, cursor.run operations = (last, (zipper.run cursor.file operations).2.map .ok) ∧
      last.IsCutAs (zipper.run cursor.file operations).1 := by
  induction operations generalizing cursor zipper with
  | nil => exact ⟨cursor, rfl, cut⟩
  | cons operation operations ih =>
    obtain ⟨next, performed, moved⟩ := cut.perform (counted operation (by simp))
    have same : next.file = cursor.file := by
      obtain ⟨distance, within⟩ := exists_perform_moved cursor operation
      simp only [performed] at within
      rw [within, moved_file]
    obtain ⟨last, others, reached⟩ :=
      ih moved fun later member => counted later (by simp [member])
    rw [same] at others reached
    refine ⟨last, ?_, reached⟩
    simp only [Cursor.run, performed, others, Zipper.run, List.map_cons]

end IsCutAs

end Cursor

namespace Zipper

private theorem ahead_append_after (zipper : Zipper) (count : Nat) :
    zipper.ahead count ++ (zipper.forward count).after = zipper.after := by
  by_cases inside : count ≤ zipper.after.length
  · rw [forward_of_le inside, ahead_of_le inside, List.take_append_drop]
  · rw [forward_of_lt (Nat.not_le.mp inside), ahead_of_lt (Nat.not_le.mp inside),
      List.nil_append]

theorem perform_whole (file : Option Text) (zipper : Zipper) (operation : Operation) :
    (zipper.perform file operation).1.before ++ (zipper.perform file operation).1.after =
      zipper.before ++ zipper.after := by
  have onward : ∀ count, (zipper.forward count).before ++ (zipper.forward count).after =
      zipper.before ++ zipper.after := by
    intro count
    rw [← ahead_append_after zipper count, ← List.append_assoc]
    rfl
  cases operation with
  | advance count | read count => exact onward count.toNat
  | skip options => exact onward _
  | retreat count =>
    simp only [perform, back, List.rdrop, List.rtake, ← List.append_assoc, List.take_append_drop]
  | peek | peekAt | peekText | remaining | remainingLength | hasRemaining | location => rfl

theorem run_whole (file : Option Text) (zipper : Zipper) (operations : List Operation) :
    (zipper.run file operations).1.before ++ (zipper.run file operations).1.after =
      zipper.before ++ zipper.after := by
  induction operations generalizing zipper with
  | nil => rfl
  | cons operation operations ih =>
    exact (ih (zipper.perform file operation).1).trans (perform_whole file zipper operation)

theorem run_reads (file : Option Text) (zipper : Zipper) (counts : List Nat) :
    ∃ texts : List Text,
      (zipper.run file (counts.map fun count : Nat => .read count)).2 = texts.map .text ∧
      (zipper.run file (counts.map fun count : Nat => .read count)).1.before =
        zipper.before ++ texts.flatten := by
  induction counts generalizing zipper with
  | nil => exact ⟨[], rfl, by simp [run]⟩
  | cons count counts ih =>
    obtain ⟨texts, answered, moved⟩ := ih (zipper.forward count)
    refine ⟨zipper.ahead count :: texts, ?_, ?_⟩
    · exact congrArg (Reply.text (zipper.ahead count) :: ·) answered
    · rw [List.flatten_cons, ← List.append_assoc]
      exact moved

end Zipper

namespace Cursor

variable {cursor : Cursor} {zipper : Zipper}

theorem run_reads (cut : cursor.IsCutAs zipper) (counts : List Nat) :
    ∃ (last : Cursor) (texts : List Text),
      cursor.run (counts.map fun count : Nat => .read count) =
        (last, texts.map fun text => .ok (.text text)) ∧
      texts.flatten = cursor.source.slice cursor.offset last.offset := by
  have counted : ∀ operation ∈ counts.map fun count : Nat => Operation.read count,
      operation.IsCounted := by
    intro operation member
    obtain ⟨count, -, rfl⟩ := List.mem_map.mp member
    exact Int.natCast_nonneg count
  obtain ⟨last, ran, reached⟩ := cut.run counted
  obtain ⟨texts, answered, moved⟩ := Zipper.run_reads cursor.file zipper counts
  refine ⟨last, texts, ?_, ?_⟩
  · rw [ran, answered, List.map_map]
    rfl
  · have whole := Zipper.run_whole cursor.file zipper (counts.map fun count : Nat => .read count)
    rw [moved, List.append_assoc] at whole
    have stop : last.offset = (zipper.before.length + texts.flatten.length : Nat) := by
      rw [reached.offset, moved, List.length_append]
    rw [cut.source, ← whole, cut.offset, stop]
    simp only [Text.slice, Text.before_natCast, List.drop_left, Nat.add_sub_cancel_left,
      List.take_left]

theorem run_read_retreat (cut : cursor.IsCutAs zipper) {count : Nat}
    (inside : count ≤ zipper.after.length) :
    cursor.run [.read count, .retreat count] =
      (cursor, [.ok (.text (zipper.after.take count)), .ok .done]) := by
  have back : (cursor.advance count).retreat count = cursor := by
    have behind : count ≤ (zipper.before ++ zipper.after.take count).length := by
      rw [List.length_append, List.length_take_of_le inside]
      omega
    rw [Splits.advance_eq cut inside, (cut.moved_drop inside).retreat_eq behind, moved_moved,
      Int.add_right_neg, moved_zero]
  have taken : cursor.peekText count = zipper.after.take count := by
    rw [IsCutAs.peekText_eq cut, Zipper.ahead_of_le inside]
  simp only [run, perform, read, back, taken]

/-- A cursor refines a zipper as long as no count is negative. From the start of a source, whatever
operations follow, the cursor stands in the source where the zipper is cut, all answers are those of
the zipper and no operation fails. Successive reads then give the text between the first and the
last offset, and a read that succeeds is undone by a retreat of the same count. -/
theorem run_refines_zipper {operations : List Operation}
    (counted : ∀ operation ∈ operations, operation.IsCounted) (source : Text)
    (file : Option Text) :
    ∃ (cursor : Cursor) (zipper : Zipper) (answers : List Reply),
      (ofSource source file).run operations = (cursor, answers.map .ok) ∧
      (Zipper.ofText source).run file operations = (zipper, answers) ∧
      zipper.before ++ zipper.after = source ∧ cursor.source = source ∧
      cursor.offset = zipper.before.length ∧
      (0 ≤ cursor.offset ∧ cursor.offset ≤ source.length) ∧
      (∀ counts : List Nat, ∃ (last : Cursor) (texts : List Text),
        cursor.run (counts.map fun count : Nat => .read count) =
          (last, texts.map fun text => .ok (.text text)) ∧
        texts.flatten = source.slice cursor.offset last.offset) ∧
      ∀ count : Nat, count ≤ zipper.after.length →
        cursor.run [.read count, .retreat count] =
          (cursor, [.ok (.text (zipper.after.take count)), .ok .done]) := by
  have start : (ofSource source file).IsCutAs (Zipper.ofText source) := splits_ofSource source file
  obtain ⟨cursor, ran, cut⟩ := start.run counted
  have whole : _ = source := Zipper.run_whole file (Zipper.ofText source) operations
  have same : cursor.source = source := cut.source.trans whole
  have inside := Splits.isIn cut
  refine ⟨cursor, _, _, ran, rfl, whole, same, cut.offset, ⟨inside.nonneg, ?_⟩, ?_, ?_⟩
  · rw [← whole]
    exact inside.le_length
  · intro counts
    rw [← same]
    exact run_reads cut counts
  · intro count enough
    exact run_read_retreat cut enough

theorem run_refines_zipper_back_and_forth :
    (∀ operation ∈ [Operation.read 2, .skip {}, .retreat 9, .advance 4, .peekAt (-2), .read 2],
      operation.IsCounted) ∧
    ∃ cursor : Cursor,
      (ofSource "ab cd".toList none).run
          [.read 2, .skip {}, .retreat 9, .advance 4, .peekAt (-2), .read 2] =
        (cursor, [.ok (.text "ab".toList), .ok .done, .ok .done, .ok .done,
          .ok (.char (some ' ')), .ok (.text [])]) ∧
      cursor.source = "ab cd".toList ∧ cursor.offset = 4 := by
  have counted : ∀ operation ∈
      [Operation.read 2, .skip {}, .retreat 9, .advance 4, .peekAt (-2), .read 2],
      operation.IsCounted := by
    simp [Operation.IsCounted]
  refine ⟨counted, ?_⟩
  obtain ⟨cursor, zipper, answers, ran, zipped, -, same, place, -⟩ :=
    run_refines_zipper counted "ab cd".toList none
  obtain ⟨rfl, rfl⟩ := Prod.mk.inj zipped
  exact ⟨cursor, ran, same, place⟩

end Cursor

end LineMark
