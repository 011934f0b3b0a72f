import LineMark.Text.Basic

/-!
Longest runs. A text is cut after its longest run of characters with a property when the run has
the property throughout and what follows does not begin with it. Read backwards, a text is so cut at
the last of the characters of one kind.
-/

set_option autoImplicit false
set_option relaxedAutoImplicit false

namespace LineMark.Text

/-- The list `run ++ rest` is cut where its longest run of members with the property ends. -/
structure IsRun {α : Type} (property : α → Bool) (run rest : List α) : Prop where
  holds : ∀ c ∈ run, property c = true
  stops : ∀ c ∈ rest.head?, property c = false

variable {α : Type} {property : α → Bool} {run rest : List α}

theorem exists_isRun (property : α → Bool) (text : List α) :
    ∃ run rest, text = run ++ rest ∧ IsRun property run rest := by
  refine ⟨text.takeWhile property, text.dropWhile property, ?_, ?_, ?_⟩
  · exact List.takeWhile_append_dropWhile.symm
  · exact List.all_eq_true.mp List.all_takeWhile
  · intro c first
    have stopped := List.head?_dropWhile_not property text
    rw [Option.mem_def.mp first] at stopped
    simpa using stopped

theorem isRun_ne [DecidableEq α] {c : α} (absent : c ∉ run)
    (next : ∀ first ∈ rest.head?, first = c) : IsRun (· ≠ c) run rest where
  holds first member := by simpa using ne_of_mem_of_not_mem member absent
  stops first member := by simpa using next first member

namespace IsRun

theorem dropWhile_eq (cut : IsRun property run rest) :
    (run ++ rest).dropWhile property = rest := by
  rw [List.dropWhile_append_of_pos cut.holds]
  cases rest with
  | nil => rfl
  | cons c rest =>
    have stopped := cut.stops c rfl
    simp [stopped]

theorem takeWhile_eq (cut : IsRun property run rest) :
    (run ++ rest).takeWhile property = run := by
  rw [List.takeWhile_append_of_pos cut.holds]
  cases rest with
  | nil => simp
  | cons c rest =>
    have stopped := cut.stops c rfl
    simp [stopped]

theorem takeWhile_self (cut : IsRun property run []) : run.takeWhile property = run := by
  simpa using cut.takeWhile_eq

theorem head {c : α} (cut : IsRun property (c :: run) rest) : property c = true :=
  cut.holds c List.mem_cons_self

theorem tail {c : α} (cut : IsRun property (c :: run) rest) : IsRun property run rest where
  holds other member := cut.holds other (List.mem_cons_of_mem c member)
  stops := cut.stops

theorem of_head?_eq (cut : IsRun property run rest) {other : List α}
    (same : other.head? = rest.head?) : IsRun property run other where
  holds := cut.holds
  stops c first := cut.stops c (same ▸ first)

theorem append_stop (cut : IsRun property run rest) {c : α} (stop : property c = false)
    (other : List α) : IsRun property run (rest ++ c :: other) := by
  cases rest with
  | nil => exact ⟨cut.holds, by simpa using stop⟩
  | cons first rest => exact cut.of_head?_eq rfl

end IsRun

theorem append_cons_inj_of_last [DecidableEq α] {c : α}
    {before after other_before other_after : List α}
    (last : c ∉ after) (other_last : c ∉ other_after) :
    before ++ c :: after = other_before ++ c :: other_after ↔
      before = other_before ∧ after = other_after := by
  constructor
  · intro same
    -- Backwards the text begins with the run up to that character.
    have backward : after.reverse ++ c :: before.reverse =
        other_after.reverse ++ c :: other_before.reverse := by
      simpa using congrArg List.reverse same
    have cut : IsRun (· ≠ c) after.reverse (c :: before.reverse) :=
      isRun_ne (by simpa using last) (by simp)
    have other_cut : IsRun (· ≠ c) other_after.reverse (c :: other_before.reverse) :=
      isRun_ne (by simpa using other_last) (by simp)
    have runs := congrArg (List.takeWhile (· ≠ c)) backward
    rw [cut.takeWhile_eq, other_cut.takeWhile_eq] at runs
    obtain rfl := List.reverse_inj.mp runs
    exact ⟨List.append_cancel_right same, rfl⟩
  · rintro ⟨rfl, rfl⟩
    rfl

end LineMark.Text
