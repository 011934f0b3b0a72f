import LineMark.Proofs.Session.Binding
import Mathlib.Data.List.Basic

/-!
Settings that are entered and left. Steps are well nested when they leave exactly what they enter.
Between entering settings and leaving them, such steps have no lasting effect on the settings of a
session, whatever they activate, and neither have they when they are broken off and every scope that
is open then is left.
-/

set_option autoImplicit false
set_option relaxedAutoImplicit false

namespace LineMark.Session

namespace Step

def isEnter : Step → Bool
  | .enter _ => true
  | _ => false

def isLeave : Step → Bool
  | .leave => true
  | _ => false

/-- The step makes lexers, asks them or scans with them, or looks at the settings; it activates
none, neither for good nor until they are left. -/
def KeepsSettings : Step → Prop
  | .activate _ | .reset | .enter _ | .leave => False
  | _ => True

end Step

/-- Steps that leave exactly the settings that they enter, those entered last first. -/
inductive WellNested : List Step → Prop
  | nil : WellNested []
  | plain {step : Step} {steps : List Step} :
      step.isEnter = false → step.isLeave = false → WellNested steps → WellNested (step :: steps)
  | scope {settings : Settings} {inside after : List Step} :
      WellNested inside → WellNested after →
      WellNested (.enter settings :: (inside ++ .leave :: after))

structure SameSettings (first second : Session) : Prop where
  active : first.active = second.active
  saved : first.saved = second.saved

variable {session inner : Session} {settings : Settings} {step : Step}
  {steps block earlier : List Step}

namespace WellNested

theorem countP_eq (nested : WellNested steps) :
    steps.countP Step.isEnter = steps.countP Step.isLeave := by
  induction nested with
  | nil => rfl
  | plain no_enter no_leave others ih => simp [no_enter, no_leave, ih]
  | scope _ _ inner outer =>
    simp only [List.countP_cons, List.countP_append, Step.isEnter, Step.isLeave,
      Bool.false_eq_true, if_true, if_false]
    omega

private theorem prefix_append_cons_cases {α : Type} {first second front : List α} {a : α}
    (front_of : front <+: first ++ a :: second) :
    front <+: first ∨ ∃ rest, front = first ++ a :: rest ∧ rest <+: second := by
  rcases List.prefix_or_prefix_of_prefix front_of (List.prefix_append first _) with
    short | ⟨more, rfl⟩
  · exact Or.inl short
  · have onward := (List.prefix_append_right_inj first).mp front_of
    rcases List.prefix_cons_iff.mp onward with rfl | ⟨rest, rfl, beyond⟩
    · exact Or.inl (by simp)
    · exact Or.inr ⟨rest, rfl, beyond⟩

theorem of_prefix (nested : WellNested block) (broken : earlier <+: block) :
    ∃ depth, earlier.countP Step.isEnter = earlier.countP Step.isLeave + depth ∧
      WellNested (earlier ++ List.replicate depth .leave) := by
  induction nested generalizing earlier with
  | nil =>
    obtain rfl := List.prefix_nil.mp broken
    exact ⟨0, rfl, .nil⟩
  | @plain step steps no_enter no_leave others ih =>
    rcases List.prefix_cons_iff.mp broken with rfl | ⟨rest, rfl, onward⟩
    · exact ⟨0, rfl, .nil⟩
    · obtain ⟨depth, count, closed⟩ := ih onward
      exact ⟨depth, by simp [no_enter, no_leave, count], .plain no_enter no_leave closed⟩
  | @scope settings inside after whole _ inner outer =>
    rcases List.prefix_cons_iff.mp broken with rfl | ⟨rest, rfl, onward⟩
    · exact ⟨0, rfl, .nil⟩
    · rcases prefix_append_cons_cases onward with within | ⟨rest, rfl, beyond⟩
      -- Broken off inside the scope, which then is left last of all that are open.
      · obtain ⟨depth, count, closed⟩ := inner within
        refine ⟨depth + 1, ?_, ?_⟩
        · simp only [List.countP_cons, Step.isEnter, Step.isLeave, Bool.false_eq_true, if_true,
            if_false]
          omega
        · rw [List.replicate_succ', List.cons_append, ← List.append_assoc]
          exact .scope closed .nil
      · obtain ⟨depth, count, closed⟩ := outer beyond
        have same := whole.countP_eq
        refine ⟨depth, ?_, ?_⟩
        · simp only [List.countP_cons, List.countP_append, Step.isEnter, Step.isLeave,
            Bool.false_eq_true, if_true, if_false]
          omega
        · rw [List.cons_append, List.append_assoc, List.cons_append]
          exact .scope whole closed

end WellNested

section

variable [Unicode.Database]

theorem sameSettings_step (session : Session) (keeps : step.KeepsSettings) :
    SameSettings (session.step step).1 session := by
  cases step with
  | make | lex | lexWithin | inspect => exact ⟨rfl, rfl⟩
  | phase name | tokenize name =>
    cases found : session.lexer? name with
    | none =>
      simp only [Session.step, found]
      exact ⟨rfl, rfl⟩
    | some lexer =>
      simp only [Session.step, found]
      exact ⟨rfl, rfl⟩
  | activate | reset | enter | leave => exact keeps.elim

theorem sameSettings_run (session : Session) (keep : ∀ step ∈ steps, step.KeepsSettings) :
    SameSettings (session.run steps).1 session := by
  induction steps generalizing session with
  | nil => exact ⟨rfl, rfl⟩
  | cons step steps ih =>
    have first := session.sameSettings_step (keep step (by simp))
    have others := ih (session.step step).1 fun later member => keep later (by simp [member])
    exact ⟨others.active.trans first.active, others.saved.trans first.saved⟩

theorem saved_step (session : Session) (no_enter : step.isEnter = false)
    (no_leave : step.isLeave = false) : (session.step step).1.saved = session.saved := by
  cases step with
  | activate | reset => rfl
  | enter => cases no_enter
  | leave => cases no_leave
  | make | phase | tokenize | lex | lexWithin | inspect =>
    exact (session.sameSettings_step (by trivial)).saved

theorem step_leave (kept : inner.saved = session.active :: session.saved) :
    SameSettings (inner.step .leave).1 session ∧
      (inner.step .leave).2 = .settings session.active := by
  simp only [Session.step, leave?, kept, and_true]
  exact ⟨rfl, rfl⟩

namespace WellNested

theorem saved_run (nested : WellNested steps) (session : Session) :
    (session.run steps).1.saved = session.saved := by
  induction nested generalizing session with
  | nil => rfl
  | plain no_enter no_leave others ih => exact (ih _).trans (session.saved_step no_enter no_leave)
  | @scope settings inside after _ _ inner outer =>
    have kept : ((session.enter settings).run inside).1.saved = session.active :: session.saved :=
      inner (session.enter settings)
    obtain ⟨left, -⟩ := step_leave kept
    change ((session.enter settings).run (inside ++ .leave :: after)).1.saved = _
    rw [run_append]
    exact (outer _).trans left.saved

theorem run_scope (nested : WellNested block) (session : Session) (settings : Settings) :
    SameSettings (session.run (.enter settings :: (block ++ [.leave]))).1 session ∧
      (session.run (.enter settings :: (block ++ [.leave]))).2[block.length + 1]? =
        some (.settings session.active) := by
  have kept : ((session.enter settings).run block).1.saved = session.active :: session.saved :=
    nested.saved_run (session.enter settings)
  obtain ⟨same, answered⟩ := step_leave kept
  constructor
  · change SameSettings ((session.enter settings).run (block ++ [.leave])).1 session
    rw [run_append]
    exact same
  · have last := session.answer_run (.enter settings :: block) .leave []
    exact last.trans (congrArg some answered)

end WellNested

/-- Settings are entered, well nested steps follow, and the settings are left: the active settings
and those to go back to are then as they were before, and leaving tells the former. They are so too
when the steps are broken off anywhere and every scope that is open is left. Steps that only make
lexers, ask them, scan or look at the settings change nothing of these at any time. -/
theorem run_restores (session : Session) (settings : Settings) (nested : WellNested block) :
    SameSettings (session.run (.enter settings :: (block ++ [.leave]))).1 session ∧
    (session.run (.enter settings :: (block ++ [.leave]))).2[block.length + 1]? =
      some (.settings session.active) ∧
    (∀ earlier, earlier <+: block →
      SameSettings (session.run (.enter settings :: (earlier ++ List.replicate
        (earlier.countP Step.isEnter - earlier.countP Step.isLeave + 1) .leave))).1 session) ∧
    ∀ steps, (∀ step ∈ steps, step.KeepsSettings) → SameSettings (session.run steps).1 session := by
  obtain ⟨same, answered⟩ := nested.run_scope session settings
  refine ⟨same, answered, ?_, fun steps => session.sameSettings_run⟩
  intro earlier broken
  obtain ⟨depth, count, closed⟩ := nested.of_prefix broken
  have left := (closed.run_scope session settings).1
  rw [count, Nat.add_sub_cancel_left, List.replicate_succ', ← List.append_assoc]
  exact left

end

theorem run_restores_failing :
    (Lexer.lex "\"".toList none ⟨.null, .null⟩).outcome =
        .error ⟨.unterminatedString, ⟨1, 2, none⟩⟩ ∧
      SameSettings
        (run ⟨[], ⟨.null, .int 7⟩, [.default]⟩
          [.enter .default, .activate ⟨.int 0, .null⟩, .enter ⟨.null, .null⟩,
            .lex "\"".toList none none, .activate .default, .leave, .reset, .leave]).1
        ⟨[], ⟨.null, .int 7⟩, [.default]⟩ := by
  have inside : WellNested [.lex "\"".toList none none, .activate .default] :=
    .plain rfl rfl (.plain rfl rfl .nil)
  have block : WellNested [.activate ⟨.int 0, .null⟩, .enter ⟨.null, .null⟩,
      .lex "\"".toList none none, .activate .default, .leave, .reset] :=
    .plain rfl rfl (.scope inside (.plain rfl rfl .nil))
  exact ⟨by decide +kernel, (run_restores _ _ block).1⟩

end LineMark.Session
