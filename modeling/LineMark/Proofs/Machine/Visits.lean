import LineMark.Proofs.Machine.Loop
import LineMark.Proofs.Reading.Prefix

/-!
The characters that a scan dispatches. Between two cycles the cursor stands where the reading of the
source goes on, so that a scan dispatches a character of a token or of a fault exactly where that
piece of the reading begins (`visits_iff`).
-/

set_option autoImplicit false
set_option relaxedAutoImplicit false

namespace LineMark.Machine

open Piece (Stands)

variable [Unicode.Database]

variable {gap : SkipOptions} {mode : Mode} {source : Text} {file : Option Text}
  {machine there next last : Machine} {before after tail : Text} {head : Char} {acts : List Act}
  {limit offset : Nat}

/-- The scan of the source dispatches the character with its cursor at the offset. -/
def Visits (gap : SkipOptions) (mode : Mode) (source : Text) (file : Option Text) (offset : Nat)
    (head : Char) : Prop :=
  ∃ limit machine there acts next, cycles gap mode limit (start source file) = .ok machine ∧
    Dispatches gap mode machine there head acts next ∧ there.cursor.offset = offset

/-- The cursor stands where the reading of the source goes on. -/
def Resumes (mode : Mode) (source : Text) (machine : Machine) : Prop :=
  ∃ before after earlier, machine.cursor.Splits before after ∧ source = before ++ after ∧
    Reading.ofSource mode source = earlier ++ Reading.ofText mode before.length after

theorem Dispatches.exists_entry (dispatches : Dispatches gap mode machine there head acts next)
    (splits : machine.cursor.Splits before after) :
    ∃ blanks tail piece gaps, after = blanks ++ head :: tail ∧
      there.cursor.offset = (before.length + blanks.length : Nat) ∧ Stands mode head tail piece ∧
      (∀ entry ∈ gaps, entry.2 = Piece.gap) ∧
      ((next.status ≠ .scanning ∧ Reading.ofText mode before.length after =
          gaps ++ [(before.length + blanks.length, piece)]) ∨
        ∃ taken rest, next.status = .scanning ∧ next.cursor.Splits taken rest ∧
          before ++ after = taken ++ rest ∧ Reading.ofText mode before.length after =
            gaps ++ (before.length + blanks.length, piece) ::
              Reading.ofText mode taken.length rest) := by
  obtain ⟨blanks, tail, piece, rfl, blank, rfl, stands, rfl⟩ := dispatches.exists_piece splits
  obtain ⟨gaps, -, all_gaps, read⟩ :=
    Reading.exists_gaps mode blank (head :: tail) before.length
  have met := splits.moved blanks
  refine ⟨blanks, tail, piece, gaps, rfl, ?_, stands, all_gaps, ?_⟩
  · rw [met.offset, List.length_append]
  · cases goes : piece.width? with
    | none =>
      refine Or.inl ⟨status_take_of_end goes _ _ _, ?_⟩
      rw [read, Reading.ofText_of_end stands goes]
    | some width =>
      have inside : width + 1 ≤ (head :: tail).length := Nat.succ_le_succ (stands.width_le goes)
      have count : before.length + blanks.length + width + 1 =
          (before ++ blanks ++ (head :: tail).take (width + 1)).length := by
        rw [List.length_append, List.length_append, List.length_take_of_le inside, Nat.add_assoc]
      refine Or.inr ⟨before ++ blanks ++ (head :: tail).take (width + 1),
        (head :: tail).drop (width + 1), ?_, ?_, ?_, ?_⟩
      · rw [take_of_width goes]
      · rw [take_of_width goes]
        exact met.moved_drop inside
      · rw [List.append_assoc, List.append_assoc, List.take_append_drop]
      · rw [read, Reading.ofText_of_width stands goes, count, List.drop_succ_cons]

theorem resumes_start (mode : Mode) (source : Text) (file : Option Text) :
    (start source file).Resumes mode source :=
  ⟨[], source, [], Cursor.splits_ofSource source file, rfl, rfl⟩

theorem resumes_cycle (resumes : machine.Resumes mode source)
    (scanning : machine.status = .scanning) (ran : machine.cycle gap mode = .ok next)
    (goes_on : next.status = .scanning) : next.Resumes mode source := by
  obtain ⟨before, after, earlier, splits, rfl, read⟩ := resumes
  rcases cycle_cases splits scanning ran with ⟨there, exhausts⟩ | ⟨there, head, acts, dispatches⟩
  · rw [exhausts.status_eq] at goes_on
    cases goes_on
  · obtain ⟨blanks, tail, piece, gaps, -, -, -, -, ends⟩ := dispatches.exists_entry splits
    rcases ends with ⟨ended, -⟩ | ⟨taken, rest, -, onward, whole, more⟩
    · exact (ended goes_on).elim
    · refine ⟨taken, rest, earlier ++ (gaps ++ [(before.length + blanks.length, piece)]), onward,
        whole, ?_⟩
      rw [read, more]
      simp

theorem resumes_cycles (ran : cycles gap mode limit (start source file) = .ok machine)
    (scanning : machine.status = .scanning) : machine.Resumes mode source := by
  have step : ∀ machine next : Machine,
      (machine.status = .scanning → machine.Resumes mode source) → machine.status = .scanning →
      machine.cycle gap mode = .ok next →
      next.status = .scanning → next.Resumes mode source :=
    fun machine next resumes scanning first => resumes_cycle (resumes scanning) scanning first
  exact cycles_preserves step (fun _ => resumes_start mode source file) ran scanning

theorem Visits.mem_ofSource (visits : Visits gap mode source file offset head) :
    ∃ before tail, source = before ++ head :: tail ∧ offset = before.length ∧
      (offset, Piece.ofText mode head tail) ∈ Reading.ofSource mode source := by
  obtain ⟨limit, machine, there, acts, next, ran, dispatches, place⟩ := visits
  obtain ⟨before, after, earlier, splits, rfl, read⟩ := resumes_cycles ran dispatches.scanning
  obtain ⟨blanks, tail, piece, gaps, rfl, here, stands, -, ends⟩ := dispatches.exists_entry splits
  obtain rfl : offset = before.length + blanks.length := by omega
  refine ⟨before ++ blanks, tail, by simp, by simp, ?_⟩
  rw [stands.ofText_eq, read]
  rcases ends with ⟨-, more⟩ | ⟨taken, rest, -, -, -, more⟩
  · rw [more]
    simp
  · rw [more]
    simp

private theorem visits_of_halts {heads : Text} (halts : Halts gap mode machine heads last)
    (scanning : machine.status = .scanning) (splits : machine.cursor.Splits before after)
    (ran : cycles gap mode limit (start source file) = .ok machine) {entry : Nat × Piece}
    (member : entry ∈ Reading.ofText mode before.length after) (solid : entry.2 ≠ .gap) :
    ∃ head, Visits gap mode source file entry.1 head := by
  induction halts generalizing before after limit with
  | stopped stopped => exact (stopped scanning).elim
  | exhausted exhausts =>
    obtain ⟨gaps, -, all_gaps, read⟩ :=
      Reading.exists_gaps mode (exhausts.blank splits) [] before.length
    rw [List.append_nil, Reading.ofText_nil, List.append_nil] at read
    rw [read] at member
    exact (solid (all_gaps entry member)).elim
  | @dispatched machine there next last head acts heads dispatches others ih =>
    obtain ⟨blanks, tail, piece, gaps, -, here, -, all_gaps, ends⟩ :=
      dispatches.exists_entry splits
    have visited : Visits gap mode source file (before.length + blanks.length) head :=
      ⟨limit, machine, there, acts, next, ran, dispatches, here⟩
    rcases ends with ⟨-, read⟩ | ⟨taken, rest, goes_on, onward, -, read⟩
    · rw [read] at member
      rcases List.mem_append.mp member with passed | met
      · exact (solid (all_gaps entry passed)).elim
      · obtain rfl := List.mem_singleton.mp met
        exact ⟨head, visited⟩
    · rw [read] at member
      rcases List.mem_append.mp member with passed | met
      · exact (solid (all_gaps entry passed)).elim
      · rcases List.mem_cons.mp met with rfl | later
        · exact ⟨head, visited⟩
        · have ran_on : cycles gap mode (limit + 1) (start source file) = .ok next :=
            (cycles_add ran 1).trans (cycles_succ scanning dispatches.cycle_eq 0)
          exact ih goes_on onward ran_on later

/-- A scan dispatches the character exactly if the token or the fault that stands there is a piece
of the reading. -/
theorem visits_iff (gap : SkipOptions) (file : Option Text) (cut : source = before ++ head :: tail)
    (solid : Piece.ofText mode head tail ≠ .gap) :
    Visits gap mode source file before.length head ↔
      (before.length, Piece.ofText mode head tail) ∈ Reading.ofSource mode source := by
  constructor
  · intro visits
    obtain ⟨other, rest, other_cut, place, member⟩ := visits.mem_ofSource
    obtain ⟨-, same⟩ := List.append_inj (cut.symm.trans other_cut) place
    obtain ⟨-, rfl⟩ := List.cons.inj same
    exact member
  · intro member
    obtain ⟨heads, last, halts, -⟩ := exists_halts gap mode source file
    have ran : cycles gap mode 0 (start source file) = .ok (start source file) := rfl
    obtain ⟨found, visits⟩ :=
      visits_of_halts halts rfl (Cursor.splits_ofSource source file) ran member solid
    obtain ⟨other, rest, other_cut, place, -⟩ := visits.mem_ofSource
    obtain ⟨-, same⟩ := List.append_inj (cut.symm.trans other_cut) place
    obtain ⟨rfl, -⟩ := List.cons.inj same
    exact visits

end LineMark.Machine
