import LineMark.Unicode.CodePoint

/-!
Sets of code points written as ascending closed intervals. Looking a code point up stops at the
first interval that begins after it, and `contains_iff` says that nothing is missed by stopping.
-/

set_option autoImplicit false
set_option relaxedAutoImplicit false

namespace LineMark.Unicode

def ascendsFrom (floor : Nat) : List (Nat × Nat) → Bool
  | [] => true
  | (low, high) :: rest => floor ≤ low && low ≤ high && ascendsFrom (high + 1) rest

/-- A set of code points, kept as the ascending list of its closed intervals. -/
structure RangeTable where
  ranges : List (Nat × Nat)
  ascends : ascendsFrom 0 ranges = true := by decide +kernel

namespace RangeTable

/-- Looks a code point up in ascending intervals, no further than the first one beyond it. -/
def covers : List (Nat × Nat) → Nat → Bool
  | [], _ => false
  | (low, high) :: rest, point => low ≤ point && (point ≤ high || covers rest point)

def contains (table : RangeTable) (point : CodePoint) : Bool :=
  covers table.ranges point.value

def points (table : RangeTable) : List Nat :=
  table.ranges.flatMap fun range => List.range' range.1 (range.2 + 1 - range.1)

private theorem low_le_of_mem {floor : Nat} {ranges : List (Nat × Nat)}
    (ascends : ascendsFrom floor ranges = true) {range : Nat × Nat} (member : range ∈ ranges) :
    floor ≤ range.1 := by
  induction ranges generalizing floor with
  | nil => simp at member
  | cons first rest ih =>
    simp only [ascendsFrom, Bool.and_eq_true, decide_eq_true_eq] at ascends
    rcases List.mem_cons.mp member with rfl | later
    · exact ascends.1.1
    · have := ih ascends.2 later
      omega

private theorem covers_iff {floor : Nat} {ranges : List (Nat × Nat)}
    (ascends : ascendsFrom floor ranges = true) (point : Nat) :
    covers ranges point = true ↔ ∃ range ∈ ranges, range.1 ≤ point ∧ point ≤ range.2 := by
  induction ranges generalizing floor with
  | nil => simp [covers]
  | cons first rest ih =>
    simp only [ascendsFrom, Bool.and_eq_true, decide_eq_true_eq] at ascends
    simp only [covers, Bool.and_eq_true, Bool.or_eq_true, decide_eq_true_eq, ih ascends.2,
      List.mem_cons, exists_eq_or_imp]
    constructor
    · rintro ⟨low, high | later⟩
      · exact Or.inl ⟨low, high⟩
      · exact Or.inr later
    · rintro (here | ⟨range, member, low, high⟩)
      · exact ⟨here.1, Or.inl here.2⟩
      · have := low_le_of_mem ascends.2 member
        exact ⟨by omega, Or.inr ⟨range, member, low, high⟩⟩

theorem contains_iff (table : RangeTable) (point : CodePoint) :
    table.contains point = true ↔
      ∃ range ∈ table.ranges, range.1 ≤ point.value ∧ point.value ≤ range.2 :=
  covers_iff table.ascends point.value

theorem mem_points {table : RangeTable} {point : CodePoint} :
    point.value ∈ table.points ↔ table.contains point = true := by
  rw [table.contains_iff]
  simp only [points, List.mem_flatMap, List.mem_range'_1]
  constructor
  · rintro ⟨range, member, low, high⟩
    exact ⟨range, member, low, by omega⟩
  · rintro ⟨range, member, low, high⟩
    exact ⟨range, member, low, by omega⟩

end RangeTable

end LineMark.Unicode
