import LineMark.Machine.Run
import LineMark.Proofs.Cursor

/-!
What programs do. Entered with the cursor between two texts, a program finds in these texts whatever
it looks at, and each act takes it on between them; the acts that it has done, its trace, are what
makes up its run (`Program.run_eq_performAll`).
-/

set_option autoImplicit false
set_option relaxedAutoImplicit false

namespace LineMark

open Text (IsRun)

namespace Program

variable {α : Type} {before after rest tail : Text} {head : Char} {acts : List Act}

private theorem bind_assoc' {β γ : Type} (program : Program α) (next : α → Program β)
    (last : β → Program γ) :
    (program.bind next).bind last = program.bind fun value => (next value).bind last := by
  induction program with
  | done value => rfl
  | look view ih => exact congrArg look (funext ih)
  | act step program ih => exact congrArg (act step) ih
  | abort cause => rfl

private theorem bind_done (program : Program α) : program.bind done = program := by
  induction program with
  | done value => rfl
  | look view ih => exact congrArg look (funext ih)
  | act step program ih => exact congrArg (act step) ih
  | abort cause => rfl

instance : LawfulMonad Program :=
  LawfulMonad.mk' Program bind_done (fun _ _ => rfl) bind_assoc'

section

variable {step : Act} {next : Program Unit} {machine moved : Machine}

theorem run_act_of_scanning (performed : machine.perform step = .ok moved)
    (goes_on : moved.status = .scanning) : run (.act step next) machine = run next moved := by
  simp only [run, performed, Bind.bind, Except.bind, goes_on]

theorem run_act_of_status_ne (performed : machine.perform step = .ok moved)
    (stopped : moved.status ≠ .scanning) : run (.act step next) machine = .ok moved := by
  simp only [run, performed, Bind.bind, Except.bind]
  rfl

theorem trace_act_of_scanning (performed : machine.perform step = .ok moved)
    (goes_on : moved.status = .scanning) :
    trace (.act step next) machine = (step :: ·) <$> trace next moved := by
  simp only [trace, performed, Bind.bind, Except.bind, goes_on]

theorem trace_act_of_status_ne (performed : machine.perform step = .ok moved)
    (stopped : moved.status ≠ .scanning) : trace (.act step next) machine = .ok [step] := by
  simp only [trace, performed, Bind.bind, Except.bind]
  rfl

end

/-- Entered between the two texts, the program does the acts. -/
def Traces (program : Program Unit) (before after : Text) (acts : List Act) : Prop :=
  ∀ machine : Machine, machine.status = .scanning → machine.cursor.Splits before after →
    program.trace machine = .ok acts

theorem traces_done : Traces (.done ()) before after [] :=
  fun _ _ _ => rfl

theorem traces_look {view : Cursor → Program α} {next : α → Program Unit} {value : α}
    (seen : ∀ cursor : Cursor, cursor.Splits before after → view cursor = .done value)
    (goes_on : Traces (next value) before after acts) :
    Traces (.look view >>= next) before after acts := by
  intro machine scanning splits
  change trace ((view machine.cursor).bind next) machine = _
  rw [seen machine.cursor splits]
  exact goes_on machine scanning splits

theorem traces_act {step : Act} {next : Program Unit} {passed left : Text}
    (performed : ∀ machine : Machine, machine.status = .scanning →
      machine.cursor.Splits before after → ∃ moved, machine.perform step = .ok moved ∧
        moved.status = .scanning ∧ moved.cursor.Splits passed left)
    (goes_on : Traces next passed left acts) :
    Traces (.act step next) before after (step :: acts) := by
  intro machine scanning splits
  obtain ⟨moved, done, still, there⟩ := performed machine scanning splits
  rw [trace_act_of_scanning done still, goes_on moved still there]
  rfl

theorem traces_terminate : Traces terminate before after [.terminate] :=
  fun _ _ _ => rfl

theorem traces_fail {fault : Fault} {next : Program Unit} :
    Traces (.act (.fail fault) next) before after [.fail fault] :=
  fun _ _ _ => rfl

theorem traces_offset {next : Int → Program Unit}
    (goes_on : Traces (next before.length) before after acts) :
    Traces (offset >>= next) before after acts :=
  traces_look (fun _ splits => by rw [splits.offset]) goes_on

theorem traces_remainingLength {next : Int → Program Unit}
    (goes_on : Traces (next after.length) before after acts) :
    Traces (remainingLength >>= next) before after acts :=
  traces_look (fun _ splits => by rw [splits.remainingLength_eq]) goes_on

theorem traces_hasRemaining {c : Char} {next : Bool → Program Unit}
    (goes_on : Traces (next true) before (c :: rest) acts) :
    Traces (hasRemaining >>= next) before (c :: rest) acts :=
  traces_look (fun _ splits => by rw [splits.hasRemaining_eq]; rfl) goes_on

theorem traces_hasRemaining_end {next : Bool → Program Unit}
    (goes_on : Traces (next false) before [] acts) :
    Traces (hasRemaining >>= next) before [] acts :=
  traces_look (fun _ splits => by rw [splits.hasRemaining_eq]; rfl) goes_on

theorem traces_peek {c : Char} {next : Option Char → Program Unit}
    (goes_on : Traces (next (some c)) before (c :: rest) acts) :
    Traces (peek >>= next) before (c :: rest) acts :=
  traces_look (fun _ splits => by rw [splits.peek_eq]; rfl) goes_on

theorem traces_tested {c : Char} {property : Char → Bool} {taken left ended : Program α}
    {next : α → Program Unit}
    (goes_on : Traces ((if property c then taken else left) >>= next) before (c :: rest) acts) :
    Traces ((do
      if ← hasRemaining then
        if (← peek).any property then taken else left
      else
        ended) >>= next) before (c :: rest) acts := by
  rw [bind_assoc]
  refine traces_hasRemaining ?_
  rw [if_pos rfl, bind_assoc]
  exact traces_peek goes_on

theorem traces_peekAt {next : Option Char → Program Unit}
    (goes_on : Traces (next tail.head?) before (head :: tail) acts) :
    Traces (peekAt 1 >>= next) before (head :: tail) acts :=
  traces_look (fun _ splits => by rw [splits.peekAt_one_eq]) goes_on

theorem traces_find? {c : Char} {start : Int} {next : Option Int → Program Unit}
    (goes_on : Traces (next ((before ++ after).find? c start)) before after acts) :
    Traces (find? c start >>= next) before after acts :=
  traces_look (fun _ splits => by rw [splits.source]) goes_on

theorem traces_slice {start stop : Int} {next : Text → Program Unit}
    (goes_on : Traces (next ((before ++ after).slice start stop)) before after acts) :
    Traces (slice start stop >>= next) before after acts :=
  traces_look (fun _ splits => by rw [splits.source]) goes_on

theorem traces_advance (passed : Text) {next : Unit → Program Unit}
    (goes_on : Traces (next ()) (before ++ passed) rest acts) :
    Traces (advance passed.length >>= next) before (passed ++ rest)
      (.advance passed.length :: acts) := by
  refine traces_act (fun machine scanning splits => ?_) goes_on
  have inside : passed.length ≤ (passed ++ rest).length := by simp
  have moved := splits.advance_eq inside
  refine ⟨_, rfl, scanning, ?_⟩
  dsimp only
  rw [moved]
  exact splits.moved passed

theorem traces_advance_all {next : Unit → Program Unit}
    (goes_on : Traces (next ()) (before ++ after) [] acts) :
    Traces (advance after.length >>= next) before after (.advance after.length :: acts) := by
  have moved := traces_advance after goes_on
  rwa [List.append_nil] at moved

theorem traces_advance_one {next : Unit → Program Unit}
    (goes_on : Traces (next ()) (before ++ [head]) tail acts) :
    Traces (advance 1 >>= next) before (head :: tail) (.advance 1 :: acts) :=
  traces_advance [head] goes_on

theorem traces_read {next : Text → Program Unit}
    (goes_on : Traces (next [head]) (before ++ [head]) tail acts) :
    Traces (read 1 >>= next) before (head :: tail) (.read 1 :: acts) := by
  have seen : ∀ cursor : Cursor, cursor.Splits before ([head] ++ tail) →
      (cursor.read 1).1 = [head] :=
    fun _ splits => splits.peekText_eq
  have acted : Traces (.act (.read 1) (next [head])) before (head :: tail) (.read 1 :: acts) := by
    refine traces_act (fun machine scanning splits => ⟨_, rfl, scanning, ?_⟩) goes_on
    have moved : machine.cursor.advance (1 : Nat) = machine.cursor.moved (1 : Nat) :=
      splits.advance_eq (by simp)
    change (machine.cursor.advance (1 : Nat)).Splits (before ++ [head]) tail
    rw [moved]
    exact splits.moved [head]
  intro machine scanning splits
  rw [← acted machine scanning splits, ← seen machine.cursor splits]
  rfl

theorem traces_skip {options : SkipOptions} {next : Unit → Program Unit}
    (goes_on : Traces (next ()) (before ++ after.take (Cursor.skipLength options after))
      (after.drop (Cursor.skipLength options after)) acts) :
    Traces (skip options >>= next) before after (.skip options :: acts) := by
  refine traces_act (fun machine scanning splits => ?_) goes_on
  refine ⟨{ machine with
    cursor := machine.cursor.moved (Cursor.skipLength options after) }, ?_, scanning, ?_⟩
  · simp only [Machine.perform, splits.skipWhitespace_eq options]
    rfl
  · exact splits.moved_drop (Cursor.skipLength_le options after)

theorem traces_emit {kind : Token.Kind} {text : Text} {next : Unit → Program Unit}
    (goes_on : Traces (next ()) before after acts) :
    Traces (emit kind text >>= next) before after (.emit kind text :: acts) :=
  traces_act (fun _ scanning splits => ⟨_, rfl, scanning, splits⟩) goes_on

theorem traces_retreat (count : Nat) : Traces (retreat count) before after [.retreat count] := by
  intro machine scanning _
  obtain ⟨cursor, tokens, status, log⟩ := machine
  subst scanning
  rfl

theorem traces_advanceWhile {property : Char → Bool} {run : Text} {limit : Nat}
    {next : Unit → Program Unit} (cut : IsRun property run rest) (enough : run.length ≤ limit)
    (goes_on : Traces (next ()) (before ++ run) rest acts) :
    Traces (advanceWhile property limit >>= next) before (run ++ rest)
      (List.replicate run.length (.advance 1) ++ acts) := by
  induction run generalizing before limit with
  | nil =>
    rw [List.append_nil] at goes_on
    cases limit with
    | zero => exact goes_on
    | succ limit =>
      cases rest with
      | nil =>
        rw [advanceWhile, bind_assoc]
        exact traces_hasRemaining_end goes_on
      | cons c rest =>
        have stopped : property c = false := cut.stops c rfl
        rw [advanceWhile]
        refine traces_tested ?_
        rw [stopped, if_neg Bool.false_ne_true]
        exact goes_on
  | cons c run ih =>
    cases limit with
    | zero => cases enough
    | succ limit =>
      have onward : Traces (advanceWhile property limit >>= next) (before ++ [c]) (run ++ rest)
          (List.replicate run.length (.advance 1) ++ acts) :=
        ih cut.tail (Nat.le_of_succ_le_succ enough) (by rwa [List.append_assoc])
      rw [advanceWhile]
      refine traces_tested ?_
      rw [cut.head, if_pos rfl, bind_assoc]
      exact traces_advance_one onward

end Program

namespace Machine

variable {acts more : List Act} {machine moved : Machine} {step : Act}

theorem performAll_of_status_ne (stopped : machine.status ≠ .scanning) (acts : List Act) :
    machine.performAll acts = .ok machine := by
  cases acts with
  | nil => rfl
  | cons act acts =>
    unfold performAll
    split
    · contradiction
    · rfl

theorem performAll_cons (scanning : machine.status = .scanning)
    (performed : machine.perform step = .ok moved) (acts : List Act) :
    machine.performAll (step :: acts) = moved.performAll acts := by
  rw [performAll, scanning, performed]
  rfl

theorem performAll_append (acts more : List Act) (machine : Machine) :
    machine.performAll (acts ++ more) = machine.performAll acts >>= performAll more := by
  induction acts generalizing machine with
  | nil => rfl
  | cons act acts ih =>
    by_cases scanning : machine.status = .scanning
    · cases performed : machine.perform act with
      | error cause =>
        rw [List.cons_append, performAll, performAll, scanning, performed]
        rfl
      | ok moved =>
        rw [List.cons_append, performAll_cons scanning performed,
          performAll_cons scanning performed, ih]
    · rw [performAll_of_status_ne scanning, performAll_of_status_ne scanning]
      exact (performAll_of_status_ne scanning more).symm

end Machine

namespace Program

variable {program : Program Unit} {machine : Machine} {acts : List Act}

/-- To run a program is to do the acts of its trace. -/
theorem run_eq_performAll (scanning : machine.status = .scanning)
    (traced : program.trace machine = .ok acts) :
    program.run machine = machine.performAll acts := by
  -- On the program, not on the acts, for what comes after an act depends on what the act leaves.
  induction program generalizing machine acts with
  | done value =>
    obtain rfl := Except.ok.inj traced
    rfl
  | look next ih => exact ih machine.cursor scanning traced
  | abort cause => cases traced
  | act step next ih =>
    cases performed : machine.perform step with
    | error cause =>
      simp only [trace, performed] at traced
      cases traced
    | ok moved =>
      by_cases goes_on : moved.status = .scanning
      · rw [trace_act_of_scanning performed goes_on] at traced
        rw [run_act_of_scanning performed goes_on]
        cases later : trace next moved with
        | error cause =>
          rw [later] at traced
          cases traced
        | ok others =>
          rw [later] at traced
          obtain rfl := Except.ok.inj traced
          rw [Machine.performAll_cons scanning performed]
          exact ih goes_on later
      · rw [trace_act_of_status_ne performed goes_on] at traced
        obtain rfl := Except.ok.inj traced
        rw [run_act_of_status_ne performed goes_on, Machine.performAll_cons scanning performed]
        rfl

end Program

namespace Machine

theorem dispatch_eq_performAll [Unicode.Database] {mode : Mode} {head : Char} {machine : Machine}
    {acts : List Act} (scanning : machine.status = .scanning)
    (traced : (scanner mode head).trace machine = .ok acts) :
    machine.dispatch mode head = machine.performAll (acts ++ [.advance 1]) := by
  rw [dispatch, Program.run_eq_performAll scanning traced, performAll_append]
  cases machine.performAll acts with
  | error cause => rfl
  | ok moved =>
    simp only [bind, Except.bind]
    split
    case h_1 goes_on =>
      rw [performAll_cons goes_on rfl]
      rfl
    case h_2 stopped => exact (performAll_of_status_ne stopped [.advance 1]).symm

end Machine

end LineMark
