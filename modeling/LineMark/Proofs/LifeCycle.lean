import LineMark.Proofs.Lexer
import LineMark.Proofs.Machine.Loop

/-!
The life of a lexer. The first call scans the source to an end of one of two sorts, and answer,
phase and log agree on which of them it is: a scan logs its failure where it fails and its success
when it is closed, so that it leaves one record (`Machine.scan_cases`). Every later call finds the
lexer used and leaves it as it is.
-/

set_option autoImplicit false
set_option relaxedAutoImplicit false

namespace LineMark

theorem Text.Numeral.decimal_natCast (n : Nat) : decimal n = (toString n).toList :=
  String.toList_ofList.symm

namespace Log

theorem lexed_eq (count : Nat) (file : Option Text) :
    lexed count file .terminated =
      ⟨"berd.lexer.core".toList, "DEBUG".toList,
        "Lexed ".toList ++ (toString count).toList ++ " tokens from ".toList ++
          (file.filter (!·.isEmpty)).getD "<string>".toList ++ " (TERMINATED)".toList⟩ := by
  have logger : loggerName "berd.lexer.core".toList = "berd.lexer.core".toList := by decide
  have ending : " (".toList ++ (Phase.terminated.name.toList ++ ")".toList) =
      " (TERMINATED)".toList := by decide
  simp only [lexed, scanRecord, logger, Text.Numeral.decimal_natCast, List.append_assoc, ending]
  cases file with
  | none => rfl
  | some name => cases name <;> rfl

theorem failed_eq (error : LexError) :
    failed error =
      ⟨"berd.lexer.core".toList, "DEBUG".toList, "Lexing failed: ".toList ++ error.message⟩ := by
  have logger : loggerName "berd.lexer.core".toList = "berd.lexer.core".toList := by decide
  rw [failed, scanRecord, logger]

end Log

namespace Machine

variable {mode : Mode} {gap : SkipOptions} {source : Text} {file : Option Text} {limit : Nat}
  {machine next : Machine}

/-- Until it is closed, a machine that has failed has logged its failure, and no other has logged
anything. -/
def LogsFailure (machine : Machine) : Prop :=
  machine.log =
    match machine.status with
    | .failed error => [Log.failed error]
    | _ => []

theorem logsFailure_perform {act : Act} (logs : machine.LogsFailure)
    (scanning : machine.status = .scanning) (performed : machine.perform act = .ok next) :
    next.LogsFailure := by
  have silent : machine.log = [] := by rwa [LogsFailure, scanning] at logs
  cases act with
  | advance | retreat | read | emit =>
    obtain rfl := Except.ok.inj performed
    exact logs
  | skip options =>
    obtain ⟨cursor, -, rfl⟩ := exists_cursor_of_skip performed
    exact logs
  | terminate =>
    obtain rfl := Except.ok.inj performed
    exact silent
  | fail fault =>
    obtain rfl := Except.ok.inj performed
    simp only [LogsFailure, failWith, silent]
    rfl

theorem close_cases (logs : machine.LogsFailure) (stopped : machine.status ≠ .scanning)
    (closed : machine.close = .ok next) :
    next.status = .terminated ∧
        next.log = [Log.lexed next.tokens.size next.cursor.file .terminated] ∨
      ∃ error, next.status = .failed error ∧ next.log = [Log.failed error] := by
  unfold close at closed
  cases status : machine.status with
  | scanning => exact (stopped status).elim
  | failed error =>
    rw [LogsFailure, status] at logs
    rw [status] at closed
    obtain rfl := Except.ok.inj closed
    exact Or.inr ⟨error, status, logs⟩
  | terminated =>
    rw [LogsFailure, status] at logs
    rw [status] at closed
    by_cases line : machine.isLineOpen = true
    · obtain rfl := Except.ok.inj ((if_pos line).symm.trans closed)
      exact Or.inr ⟨_, rfl, congrArg (· ++ [Log.failed _]) logs⟩
    · obtain rfl := Except.ok.inj ((if_neg line).symm.trans closed)
      refine Or.inl ⟨status, ?_⟩
      simp only [recorded, status, logs]
      rfl

private theorem cursor_exhaust (machine : Machine) : machine.exhaust.cursor = machine.cursor := by
  unfold exhaust
  split <;> rfl

private theorem cursor_close (closed : machine.close = .ok next) :
    next.cursor = machine.cursor := by
  unfold close at closed
  split at closed
  · rw [← Except.ok.inj closed]
  · split at closed
    · rw [← Except.ok.inj closed, failWith]
    · rw [← Except.ok.inj closed, recorded]

section

variable [Unicode.Database]

theorem logsFailure_cycles (ran : cycles gap mode limit (start source file) = .ok machine) :
    machine.LogsFailure := by
  have step : ∀ machine next : Machine, machine.cursor.IsIn source ∧ machine.LogsFailure →
      machine.status = .scanning → machine.cycle gap mode = .ok next →
      next.cursor.IsIn source ∧ next.LogsFailure := by
    rintro machine next ⟨inside, logs⟩ scanning first
    refine ⟨isIn_cycle inside scanning first, ?_⟩
    exact cycle_preserves (fun _ _ _ => logsFailure_perform) inside logs scanning first
  exact (cycles_preserves step ⟨isIn_start source file, rfl⟩ ran).2

/-- A whole scan ends terminated or failed, and leaves exactly one record, which tells of that. -/
theorem scan_cases (scanned : (start source file).scan mode = .ok machine) :
    machine.status = .terminated ∧
        machine.log = [Log.lexed machine.tokens.size machine.cursor.file .terminated] ∨
      ∃ error, machine.status = .failed error ∧ machine.log = [Log.failed error] := by
  obtain ⟨heads, last, halts, inside⟩ := exists_halts tokenGap mode source file
  have ran := halts.cycles_eq (Nat.lt_succ_of_le inside.length_le)
  rw [scan_eq_close ran halts.status_ne] at scanned
  exact close_cases (logsFailure_cycles ran) halts.status_ne scanned

theorem file_scan (scanned : (start source file).scan mode = .ok machine) :
    machine.cursor.file = file := by
  have follows := follows_takeAll mode #[] [] (Cursor.splits_ofSource source file)
  change ((start source file).takeAll (Reading.ofSource mode source)).Follows source file []
    (Reading.ofSource mode source) at follows
  rw [scan, scanOver_start] at scanned
  rw [cursor_close scanned, cursor_exhaust, follows.file_eq]

end

end Machine

namespace Lexer

variable [Unicode.Database]

/-- The calls that ask a lexer for its tokens so many times, one after another. -/
def calls : Nat → Lexer → List Call
  | 0, _ => []
  | count + 1, lexer => lexer.tokenize :: calls count lexer.tokenize.lexer

theorem tokenize_of_phase_ne {lexer : Lexer} (used : lexer.phase ≠ .scanning) :
    lexer.tokenize = ⟨.used lexer.phase, lexer, []⟩ := by
  unfold tokenize
  split
  · contradiction
  · rfl

theorem calls_of_phase_ne {lexer : Lexer} (used : lexer.phase ≠ .scanning) (count : Nat) :
    calls count lexer = List.replicate count ⟨.used lexer.phase, lexer, []⟩ := by
  induction count with
  | zero => rfl
  | succ count ih => rw [calls, tokenize_of_phase_ne used, ih, List.replicate_succ]

/-- The first call to a lexer returns tokens and leaves it terminated, or it raises an error and
leaves it failed, and either way it logs one record of that. Every further call, however many there
are, tells the phase that was reached, logs nothing and leaves the lexer as it is. -/
theorem lex_life_cycle (source : Text) (file : Option Text) (settings : Settings) :
    (new source file settings).phase = .scanning ∧
    ((∃ tokens, (lex source file settings).outcome = .tokens tokens ∧
        (lex source file settings).lexer.phase = .terminated ∧
        (lex source file settings).log =
          [⟨"berd.lexer.core".toList, "DEBUG".toList,
            "Lexed ".toList ++ (toString tokens.length).toList ++ " tokens from ".toList ++
              (file.filter (!·.isEmpty)).getD "<string>".toList ++ " (TERMINATED)".toList⟩] ∧
        usedMessage (lex source file settings).lexer.phase =
          "Lexer already used (state: TERMINATED)".toList) ∨
      ∃ error, (lex source file settings).outcome = .error error ∧
        (lex source file settings).lexer.phase = .failed ∧
        (lex source file settings).log =
          [⟨"berd.lexer.core".toList, "DEBUG".toList,
            "Lexing failed: ".toList ++ error.message⟩] ∧
        usedMessage (lex source file settings).lexer.phase =
          "Lexer already used (state: FAILED)".toList) ∧
    ∀ count, calls (count + 1) (new source file settings) =
      lex source file settings ::
        List.replicate count ⟨.used (lex source file settings).lexer.phase,
          (lex source file settings).lexer, []⟩ := by
  obtain ⟨machine, scanned, -, -⟩ := Machine.scan_start settings.mode source file
  have answered := tokenize_new source file settings scanned
  have used : (lex source file settings).lexer.phase ≠ .scanning := by
    rw [answered, report]
    rcases Machine.scan_cases scanned with ⟨status, -⟩ | ⟨error, status, -⟩ <;>
      simp [status, phase, Status.phase]
  refine ⟨rfl, ?_, fun count => ?_⟩
  · rw [answered, report]
    rcases Machine.scan_cases scanned with ⟨status, logged⟩ | ⟨error, status, logged⟩
    · rw [status, logged, Machine.file_scan scanned, Log.lexed_eq]
      have reached : machine.status.phase = .terminated := congrArg Status.phase status
      refine Or.inl ⟨_, rfl, reached, by rw [Array.length_toList], ?_⟩
      change usedMessage machine.status.phase = _
      rw [reached]
      decide
    · rw [status, logged, Log.failed_eq]
      have reached : machine.status.phase = .failed := congrArg Status.phase status
      refine Or.inr ⟨error, rfl, reached, rfl, ?_⟩
      change usedMessage machine.status.phase = _
      rw [reached]
      decide
  · change lex source file settings :: calls count (lex source file settings).lexer = _
    rw [calls_of_phase_ne used]

end Lexer

end LineMark
