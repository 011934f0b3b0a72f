import LineMark.Session

/-!
What a lexer of a session is bound to. A step leaves every lexer alone that it does not name, so
that a lexer scans under the settings that it was made with, whatever happens in the session between
its making and its scan.
-/

set_option autoImplicit false
set_option relaxedAutoImplicit false

namespace LineMark.Session

def Step.Uses (name : Text) : Step → Prop
  | .make other .. | .tokenize other => other = name
  | _ => False

theorem lookup_filter_of_ne (lexers : List (Text × Lexer)) {name other : Text}
    (differs : other ≠ name) :
    (lexers.filter (·.1 ≠ other)).lookup name = lexers.lookup name := by
  induction lexers with
  | nil => rfl
  | cons entry lexers ih =>
    obtain ⟨key, lexer⟩ := entry
    by_cases taken : key = other
    · -- the entry is dropped, and the lookup passes over it
      subst taken
      have missed : (name == key) = false := by simp [Ne.symm differs]
      simpa [List.lookup_cons, missed] using ih
    · by_cases hit : name = key
      · simp [taken, hit]
      · have missed : (name == key) = false := by simp [hit]
        simpa [taken, List.lookup_cons, missed] using ih

theorem lexer?_putLexer_self (session : Session) (name : Text) (lexer : Lexer) :
    (session.putLexer name lexer).lexer? name = some lexer := by
  simp [lexer?, putLexer]

theorem lexer?_putLexer_of_ne (session : Session) {name other : Text} (differs : other ≠ name)
    (lexer : Lexer) : (session.putLexer other lexer).lexer? name = session.lexer? name := by
  have missed : (name == other) = false := by simp [Ne.symm differs]
  have kept := lookup_filter_of_ne session.lexers differs
  simp only [lexer?, putLexer, List.lookup_cons, missed]
  exact kept

section

variable [Unicode.Database]

theorem lexer?_step (session : Session) {name : Text} {step : Step} (apart : ¬step.Uses name) :
    (session.step step).1.lexer? name = session.lexer? name := by
  cases step with
  | make other source file settings => exact session.lexer?_putLexer_of_ne apart _
  | tokenize other =>
    cases found : session.lexer? other with
    | none => simp only [Session.step, found]
    | some lexer =>
      simp only [Session.step, found]
      exact session.lexer?_putLexer_of_ne apart _
  | phase other =>
    cases found : session.lexer? other with
    | none => simp only [Session.step, found]
    | some lexer => simp only [Session.step, found]
  | leave =>
    cases entered : session.saved with
    | nil => simp only [Session.step, leave?, entered]
    | cons settings saved =>
      simp only [Session.step, leave?, entered]
      rfl
  | lex | lexWithin | activate | reset | enter | inspect => rfl

theorem lexer?_run (session : Session) {name : Text} {steps : List Step}
    (apart : ∀ step ∈ steps, ¬step.Uses name) :
    (session.run steps).1.lexer? name = session.lexer? name := by
  induction steps generalizing session with
  | nil => rfl
  | cons step steps ih =>
    have first := session.lexer?_step (apart step (by simp))
    have others := ih (session.step step).1 fun later member => apart later (by simp [member])
    exact others.trans first

theorem run_append (session : Session) (first second : List Step) :
    session.run (first ++ second) =
      (((session.run first).1.run second).1,
        (session.run first).2 ++ ((session.run first).1.run second).2) := by
  induction first generalizing session with
  | nil => rfl
  | cons step first ih =>
    have rest := ih (session.step step).1
    simp only [List.cons_append, run, rest]

theorem length_answers (session : Session) (steps : List Step) :
    (session.run steps).2.length = steps.length := by
  induction steps generalizing session with
  | nil => rfl
  | cons step steps ih => exact congrArg Nat.succ (ih _)

theorem answer_run (session : Session) (before : List Step) (step : Step) (later : List Step) :
    (session.run (before ++ step :: later)).2[before.length]? =
      some ((session.run before).1.step step).2 := by
  rw [run_append, ← session.length_answers before]
  simp [run]

/-- A lexer that is asked for its tokens for the first time answers as a new one does for the same
source, under the settings that it was given when it was made or else those that were active then;
and so do the lexers that last for a single step. -/
theorem run_answers_bound (session : Session) (earlier later : List Step) :
    (∀ name source file settings between, (∀ step ∈ between, ¬step.Uses name) →
      (session.run ((earlier ++ .make name source file settings :: between) ++
          .tokenize name :: later)).2[
            (earlier ++ Step.make name source file settings :: between).length]? =
        some (.tokenized
          (Lexer.lex source file (settings.getD (session.run earlier).1.active)).outcome
          (Lexer.lex source file (settings.getD (session.run earlier).1.active)).lexer.phase)) ∧
    (∀ source file settings,
      (session.run (earlier ++ .lex source file settings :: later)).2[earlier.length]? =
        some (.lexed
          (Lexer.lex source file (settings.getD (session.run earlier).1.active)).outcome)) ∧
    ∀ source settings,
      (session.run (earlier ++ .lexWithin source settings :: later)).2[earlier.length]? =
        some (.lexed (Lexer.lex source none settings).outcome) := by
  refine ⟨?_, ?_, ?_⟩
  · intro name source file settings between apart
    rw [answer_run, run_append]
    have bound : ((session.run earlier).1.run (.make name source file settings :: between)).1.lexer?
        name = some (.new source file (settings.getD (session.run earlier).1.active)) := by
      change (((session.run earlier).1.putLexer name _).run between).1.lexer? name = _
      rw [lexer?_run _ apart, lexer?_putLexer_self]
    simp only [Session.step, bound]
    rfl
  · intro source file settings
    exact answer_run ..
  · intro source settings
    exact answer_run ..

end

theorem run_answers_bound_interleaved :
    (empty.run [.activate ⟨.null, .null⟩, .make "a".toList "1=x !".toList none none, .reset,
        .make "b".toList "\"".toList none none, .tokenize "b".toList,
        .tokenize "a".toList]).2[5]? =
      some (.tokenized (.tokens [⟨.intLiteral, "1".toList, ⟨1, 2, none⟩⟩,
        ⟨.equals, "=".toList, ⟨1, 2, none⟩⟩, ⟨.identifier, "x".toList, ⟨1, 4, none⟩⟩,
        ⟨.endOfLine, "!".toList, ⟨1, 6, none⟩⟩]) .terminated) := by
  have answered := (run_answers_bound empty [.activate ⟨.null, .null⟩] []).1 "a".toList
    "1=x !".toList none none
    [.reset, .make "b".toList "\"".toList none none, .tokenize "b".toList] (by simp [Step.Uses])
  have scanned : (Lexer.lex "1=x !".toList none ⟨.null, .null⟩).outcome =
      .tokens [⟨.intLiteral, "1".toList, ⟨1, 2, none⟩⟩, ⟨.equals, "=".toList, ⟨1, 2, none⟩⟩,
        ⟨.identifier, "x".toList, ⟨1, 4, none⟩⟩, ⟨.endOfLine, "!".toList, ⟨1, 6, none⟩⟩] := by
    decide +kernel
  have stopped : (Lexer.lex "1=x !".toList none ⟨.null, .null⟩).lexer.phase = .terminated := by
    decide +kernel
  change _ = some (Answer.tokenized (Lexer.lex "1=x !".toList none ⟨.null, .null⟩).outcome
    (Lexer.lex "1=x !".toList none ⟨.null, .null⟩).lexer.phase) at answered
  rw [scanned, stopped] at answered
  exact answered

end LineMark.Session
