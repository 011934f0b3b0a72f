import LineMark.Proofs.Machine.Run

/-!
What a lexer answers. Scans of a source amount to the reading of the source, whatever gap they pass
over between tokens (`Machine.scanOver_start`), so that the answer of a lexer and the tokens that it
has found are those of the reading.
-/

set_option autoImplicit false
set_option relaxedAutoImplicit false

namespace LineMark

namespace Machine

private theorem isLineOpen_of_nil {machine : Machine} (none_found : machine.tokens.toList = []) :
    machine.isLineOpen = false := by
  simp [isLineOpen, ← Array.getLast?_toList, none_found]

private theorem isLineOpen_of_append {machine : Machine} {earlier : List Token} {last : Token}
    (found : machine.tokens.toList = earlier ++ [last]) :
    machine.isLineOpen = !last.kind.isEndOfLine := by
  simp [isLineOpen, ← Array.getLast?_toList, found]

private theorem close_of_isLineOpen {machine : Machine} (ended : machine.status = .terminated)
    {isOpen : Bool} (line : machine.isLineOpen = isOpen) :
    machine.close =
      .ok (if isOpen then machine.failWith .unterminatedLine else machine.recorded) := by
  unfold close
  rw [ended, line]
  cases isOpen <;> rfl

variable [Unicode.Database]

theorem scanOver_start (gap : SkipOptions) (mode : Mode) (source : Text) (file : Option Text) :
    scanOver gap mode (start source file) =
      ((start source file).takeAll (Reading.ofSource mode source)).exhaust.close := by
  have run := cycles_eq gap mode #[] [] (source.length + 1) (Cursor.splits_ofSource source file)
    (Nat.lt_succ_self _) 0
  change (cycles gap mode (source.length + 1) (start source file) >>= close) = _
  change cycles gap mode (source.length + 1) (start source file) = _ at run
  rw [run]
  rfl

theorem scan_start (mode : Mode) (source : Text) (file : Option Text) :
    ∃ machine, (start source file).scan mode = .ok machine ∧
      machine.tokens.toList = (Reading.ofSource mode source).tokens source file ∧
      (Lexer.report mode machine machine.log).outcome =
        (Reading.ofSource mode source).outcome source file := by
  have follows := follows_takeAll mode #[] [] (Cursor.splits_ofSource source file)
  change ((start source file).takeAll (Reading.ofSource mode source)).Follows source file []
    (Reading.ofSource mode source) at follows
  rw [scan, scanOver_start, Reading.outcome_eq]
  generalize (start source file).takeAll (Reading.ofSource mode source) = taken at follows
  obtain ⟨cursor, tokens, status, log⟩ := taken
  obtain ⟨listed, stands, same, label, place⟩ := follows
  simp only [List.nil_append] at listed stands same label place
  subst stands
  cases stood : (Reading.ofSource mode source).status source file with
  | failed error => exact ⟨_, rfl, listed, rfl⟩
  | terminated =>
    obtain ⟨earlier, marker, split, -, last⟩ := Reading.exists_marker_of_status stood
    change (Reading.ofSource mode source).tokens source file = _ at split
    have line : isLineOpen ⟨cursor, tokens, .terminated, log⟩ = false := by
      rw [isLineOpen_of_append (listed.trans split)]
      simpa [Token.lexeme] using last.isEndOfLine
    exact ⟨_, close_of_isLineOpen rfl line, listed, congrArg Outcome.tokens listed⟩
  | scanning =>
    have ordinary : ∀ token ∈ (Reading.ofSource mode source).tokens source file,
        token.lexeme.IsOrdinary :=
      Reading.isOrdinary_of_status_ne (by
        change (Reading.ofSource mode source).status source file ≠ _
        simp [stood])
    rcases List.eq_nil_or_concat ((Reading.ofSource mode source).tokens source file) with
      empty | ⟨earlier, last, ended⟩
    · have line : isLineOpen ⟨cursor, tokens, .terminated, log⟩ = false :=
        isLineOpen_of_nil (listed.trans empty)
      refine ⟨_, close_of_isLineOpen rfl line, listed, ?_⟩
      change Outcome.tokens tokens.toList = _
      simp [listed, empty]
    · have split := ended.trans List.concat_eq_append
      have line : isLineOpen ⟨cursor, tokens, .terminated, log⟩ = true := by
        rw [isLineOpen_of_append (listed.trans split)]
        have unmarked := (ordinary last (by simp [split])).isEndOfLine
        simpa [Token.lexeme] using unmarked
      have located : cursor.location = .ofOffset source source.length file := by
        rw [Cursor.location, same, label, place stood]
      refine ⟨_, close_of_isLineOpen rfl line, listed, ?_⟩
      change Outcome.error ⟨.unterminatedLine, cursor.location⟩ = _
      simp [located, split]

end Machine

/-- The tokens that a call has found, whether or not it was a success. -/
def Call.found (call : Call) : List Token :=
  call.lexer.machine.tokens.toList

namespace Lexer

private theorem lexer_report (mode : Mode) (machine : Machine) (log : List Log.Record) :
    (report mode machine log).lexer = ⟨mode, machine⟩ := by
  unfold report
  split <;> rfl

variable [Unicode.Database] (source : Text) (file : Option Text) (settings : Settings)

theorem tokenize_new {machine : Machine}
    (scanned : (Machine.start source file).scan settings.mode = .ok machine) :
    lex source file settings = report settings.mode machine machine.log := by
  have unused : (new source file settings).phase = .scanning := rfl
  have taken : (new source file settings).machine.scan (new source file settings).mode =
      .ok machine := scanned
  rw [lex, tokenize, unused]
  dsimp only
  rw [taken]
  rfl

theorem outcome_lex :
    (lex source file settings).outcome =
      (Reading.ofSource settings.mode source).outcome source file := by
  obtain ⟨machine, scanned, -, answered⟩ := Machine.scan_start settings.mode source file
  rw [tokenize_new source file settings scanned, answered]

theorem found_lex :
    (lex source file settings).found =
      (Reading.ofSource settings.mode source).tokens source file := by
  obtain ⟨machine, scanned, listed, -⟩ := Machine.scan_start settings.mode source file
  rw [Call.found, tokenize_new source file settings scanned, lexer_report, listed]

/-- A lexer answers what the reading of its source amounts to, and the tokens that it has found,
whether or not it succeeds, are those of the reading. -/
theorem lex_refines_reading :
    (lex source file settings).outcome =
        (Reading.ofSource settings.mode source).outcome source file ∧
      (lex source file settings).found =
        (Reading.ofSource settings.mode source).tokens source file :=
  ⟨outcome_lex source file settings, found_lex source file settings⟩

end Lexer

end LineMark
