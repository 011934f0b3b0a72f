import LineMark.Fault
import LineMark.Proofs.Runs

/-!
Messages of errors. No description of a fault begins another, so a message tells the fault. A place
in a message is read from its end: neither a line nor a column holds a colon, and all that stands
before the line is the name of the file, whatever that name holds. Two errors therefore have one
message only if they are of one fault and in one place (`message_eq_iff`).
-/

set_option autoImplicit false
set_option relaxedAutoImplicit false

namespace LineMark

open Text (append_cons_inj_of_last)
open Text.Numeral (decimal decimal_inj)

namespace Fault

variable {first second : Fault}

theorem eq_of_prefix_description
    (begins : first.description.toList <+: second.description.toList) : first = second := by
  revert begins
  cases first <;> cases second <;> decide

theorem description_append_inj {rest other_rest : Text} :
    first.description.toList ++ rest = second.description.toList ++ other_rest ↔
      first = second ∧ rest = other_rest := by
  constructor
  · intro same
    have begins := List.prefix_append first.description.toList rest
    have other_begins := List.prefix_append second.description.toList other_rest
    rw [← same] at other_begins
    have equal : first = second := by
      rcases List.prefix_or_prefix_of_prefix begins other_begins with shorter | longer
      · exact eq_of_prefix_description shorter
      · exact (eq_of_prefix_description longer).symm
    subst equal
    exact ⟨rfl, List.append_cancel_left same⟩
  · rintro ⟨rfl, rfl⟩
    rfl

end Fault

namespace Location

def IsUnnamed (place : Location) : Prop :=
  place.file = none ∨ place.file = some []

/-- What is written of a place before the colon and the column: the line, after the name of the file
and a colon where there is a name. -/
def front (place : Location) : Text :=
  match place.file with
  | none | some [] => decimal place.line
  | some name => name ++ ':' :: decimal place.line

theorem toText_eq (place : Location) :
    place.toText = place.front ++ ':' :: decimal place.column := by
  obtain ⟨line, column, file⟩ := place
  match file with
  | none => rfl
  | some [] => rfl
  | some (c :: name) =>
    exact (List.append_assoc (c :: name) (':' :: decimal line) (':' :: decimal column)).symm

theorem front_of_isUnnamed {place : Location} (unnamed : place.IsUnnamed) :
    place.front = decimal place.line := by
  rcases unnamed with absent | empty
  · simp only [front, absent]
  · simp only [front, empty]

theorem front_cases (place : Location) :
    place.IsUnnamed ∨
      ∃ name, place.file = some name ∧ place.front = name ++ ':' :: decimal place.line := by
  obtain ⟨line, column, file⟩ := place
  match file with
  | none => exact Or.inl (Or.inl rfl)
  | some [] => exact Or.inl (Or.inr rfl)
  | some (c :: name) => exact Or.inr ⟨c :: name, rfl, rfl⟩

private theorem colon_notMem_decimal (n : Int) : ':' ∉ decimal n := by
  intro member
  rcases Text.Numeral.eq_or_isDigit_of_mem_decimal member with sign | digit
  · exact absurd sign (by decide)
  · exact absurd digit (by decide)

private theorem decimal_ne_named (line other : Int) (name : Text) :
    decimal line ≠ name ++ ':' :: decimal other := by
  intro same
  have colon : ':' ∈ name ++ ':' :: decimal other := List.mem_append_right _ List.mem_cons_self
  exact colon_notMem_decimal line (same ▸ colon)

variable {first second : Location}

theorem front_eq_iff :
    first.front = second.front ↔
      first.line = second.line ∧
        (first.file = second.file ∨ first.IsUnnamed ∧ second.IsUnnamed) := by
  constructor
  · intro same
    rcases front_cases first with unnamed | ⟨name, known, form⟩ <;>
      rcases front_cases second with other_unnamed | ⟨other, other_known, other_form⟩
    case inl.inl =>
      rw [front_of_isUnnamed unnamed, front_of_isUnnamed other_unnamed] at same
      exact ⟨decimal_inj.mp same, Or.inr ⟨unnamed, other_unnamed⟩⟩
    case inl.inr =>
      rw [front_of_isUnnamed unnamed, other_form] at same
      exact (decimal_ne_named _ _ _ same).elim
    case inr.inl =>
      rw [form, front_of_isUnnamed other_unnamed] at same
      exact (decimal_ne_named _ _ _ same.symm).elim
    case inr.inr =>
      rw [form, other_form, append_cons_inj_of_last (colon_notMem_decimal _)
        (colon_notMem_decimal _)] at same
      obtain ⟨rfl, lines⟩ := same
      exact ⟨decimal_inj.mp lines, Or.inl (known.trans other_known.symm)⟩
  · rintro ⟨line, file | ⟨unnamed, other_unnamed⟩⟩
    · simp only [front, line, file]
    · rw [front_of_isUnnamed unnamed, front_of_isUnnamed other_unnamed, line]

theorem toText_eq_iff :
    first.toText = second.toText ↔
      first.line = second.line ∧ first.column = second.column ∧
        (first.file = second.file ∨ first.IsUnnamed ∧ second.IsUnnamed) := by
  rw [toText_eq, toText_eq, append_cons_inj_of_last (colon_notMem_decimal _)
    (colon_notMem_decimal _), front_eq_iff, decimal_inj, and_right_comm, and_assoc]

end Location

namespace LexError

/-- The message of an error tells its fault and its place: errors have one message if they are of
one fault, on one line, in one column and in files of one name or both without a name, and only
then. -/
theorem message_eq_iff {first second : LexError} :
    first.message = second.message ↔
      first.fault = second.fault ∧ first.location.line = second.location.line ∧
        first.location.column = second.location.column ∧
        (first.location.file = second.location.file ∨
          first.location.IsUnnamed ∧ second.location.IsUnnamed) := by
  rw [message, message, List.append_assoc, List.append_assoc, Fault.description_append_inj,
    List.append_right_inj, Location.toText_eq_iff]

-- The name of a file may itself read like a message.
example :
    message ⟨.deadCode, ⟨-1, 20, some "dead code at f:1:2".toList⟩⟩ =
      "dead code at dead code at f:1:2:-1:20".toList := by
  decide

end LexError

end LineMark
