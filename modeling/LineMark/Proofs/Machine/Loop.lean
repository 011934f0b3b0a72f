import LineMark.Proofs.Machine.Run

/-!
Whole scans, cycle after cycle. `Machine.Halts` is the loop without a bound on its cycles: every
scan gets to its end, it dispatches no character of its source twice (`exists_halts`), and the bound
that is put on its cycles never stops it (`Halts.cycles_eq`).
-/

set_option autoImplicit false
set_option relaxedAutoImplicit false

namespace LineMark.Machine

variable {gap : SkipOptions} {mode : Mode} {source : Text} {machine next last : Machine}
  {limit : Nat}

theorem isIn_perform {act : Act} (inside : machine.cursor.IsIn source)
    (performed : machine.perform act = .ok next) : next.cursor.IsIn source := by
  cases act with
  | advance count | read count =>
    obtain rfl := Except.ok.inj performed
    exact inside.advance count
  | retreat count =>
    obtain rfl := Except.ok.inj performed
    exact inside.retreat count
  | skip options =>
    obtain ⟨cursor, skipped, rfl⟩ := exists_cursor_of_skip performed
    exact inside.skipWhitespace skipped
  | emit | terminate | fail =>
    obtain rfl := Except.ok.inj performed
    exact inside

theorem performAll_preserves {property : Machine → Prop} {acts : List Act}
    (step : ∀ machine act next, property machine → machine.status = .scanning →
      machine.perform act = .ok next → property next)
    (holds : property machine) (performed : machine.performAll acts = .ok next) :
    property next := by
  induction acts generalizing machine with
  | nil => exact Except.ok.inj performed ▸ holds
  | cons act acts ih =>
    by_cases scanning : machine.status = .scanning
    · cases first : machine.perform act with
      | ok second =>
        rw [performAll_cons scanning first] at performed
        exact ih (step machine act second holds scanning first) performed
      | error cause =>
        rw [performAll, scanning, first] at performed
        cases performed
    · rw [performAll_of_status_ne scanning] at performed
      exact Except.ok.inj performed ▸ holds

theorem Exhausts.status_eq {there : Machine} (exhausts : Exhausts gap machine there last) :
    last.status = .terminated := by
  obtain rfl := Except.ok.inj exhausts.ended
  rfl

theorem isIn_start (source : Text) (file : Option Text) :
    (start source file).cursor.IsIn source :=
  (Cursor.splits_ofSource source file).isIn

variable [Unicode.Database]

theorem cycles_succ (scanning : machine.status = .scanning)
    (ran : machine.cycle gap mode = .ok next) (limit : Nat) :
    cycles gap mode (limit + 1) machine = cycles gap mode limit next := by
  rw [cycles, scanning]
  change (machine.cycle gap mode >>= cycles gap mode limit) = _
  rw [ran]
  rfl

theorem cycles_succ_cases (ran : cycles gap mode (limit + 1) machine = .ok last) :
    machine.status ≠ .scanning ∧ machine = last ∨
      machine.status = .scanning ∧ ∃ next, machine.cycle gap mode = .ok next ∧
        cycles gap mode limit next = .ok last := by
  by_cases scanning : machine.status = .scanning
  · refine Or.inr ⟨scanning, ?_⟩
    cases first : machine.cycle gap mode with
    | ok next =>
      rw [cycles_succ scanning first] at ran
      exact ⟨next, rfl, ran⟩
    | error cause =>
      rw [cycles, scanning] at ran
      change (machine.cycle gap mode >>= cycles gap mode limit) = _ at ran
      rw [first] at ran
      cases ran
  · rw [cycles_of_status_ne scanning] at ran
    exact Or.inl ⟨scanning, Except.ok.inj ran⟩

theorem cycles_preserves {property : Machine → Prop}
    (step : ∀ machine next, property machine → machine.status = .scanning →
      machine.cycle gap mode = .ok next → property next)
    (holds : property machine) (ran : cycles gap mode limit machine = .ok last) :
    property last := by
  induction limit generalizing machine with
  | zero => exact Except.ok.inj ran ▸ holds
  | succ limit ih =>
    rcases cycles_succ_cases ran with ⟨-, rfl⟩ | ⟨scanning, next, first, others⟩
    · exact holds
    · exact ih (step machine next holds scanning first) others

theorem cycles_add (ran : cycles gap mode limit machine = .ok next) (more : Nat) :
    cycles gap mode (limit + more) machine = cycles gap mode more next := by
  induction limit generalizing machine with
  | zero => rw [Except.ok.inj ran, Nat.zero_add]
  | succ limit ih =>
    rcases cycles_succ_cases ran with ⟨stopped, rfl⟩ | ⟨scanning, second, first, others⟩
    · rw [cycles_of_status_ne stopped, cycles_of_status_ne stopped]
    · rw [Nat.succ_add, cycles_succ scanning first, ih others]

theorem Dispatches.isIn {there : Machine} {head : Char} {acts : List Act}
    (dispatches : Dispatches gap mode machine there head acts next)
    (inside : machine.cursor.IsIn source) :
    there.cursor.IsIn source ∧ next.cursor.IsIn source :=
  have there := isIn_perform inside dispatches.passed
  have step : ∀ (machine : Machine) act next, machine.cursor.IsIn source →
      machine.status = .scanning → machine.perform act = .ok next → next.cursor.IsIn source :=
    fun _ _ _ inside _ performed => isIn_perform inside performed
  ⟨there, performAll_preserves step there dispatches.carried⟩

theorem cycle_preserves {property : Machine → Prop}
    (step : ∀ machine act next, property machine → machine.status = .scanning →
      machine.perform act = .ok next → property next)
    (inside : machine.cursor.IsIn source) (holds : property machine)
    (scanning : machine.status = .scanning) (ran : machine.cycle gap mode = .ok next) :
    property next := by
  obtain ⟨before, after, -, splits⟩ := inside.exists_splits
  rcases cycle_cases splits scanning ran with ⟨there, exhausts⟩ | ⟨there, head, acts, dispatches⟩
  · have passed := step _ _ _ holds scanning exhausts.passed
    obtain ⟨cursor, -, rfl⟩ := exists_cursor_of_skip exhausts.passed
    exact step _ _ _ passed scanning exhausts.ended
  · have passed := step _ _ _ holds scanning dispatches.passed
    exact performAll_preserves step passed dispatches.carried

theorem isIn_cycle (inside : machine.cursor.IsIn source) (scanning : machine.status = .scanning)
    (ran : machine.cycle gap mode = .ok next) : next.cursor.IsIn source :=
  cycle_preserves (fun _ _ _ inside _ performed => isIn_perform inside performed) inside inside
    scanning ran

theorem isIn_cycles (inside : machine.cursor.IsIn source)
    (ran : cycles gap mode limit machine = .ok last) : last.cursor.IsIn source :=
  have step : ∀ machine next : Machine, machine.cursor.IsIn source → machine.status = .scanning →
      machine.cycle gap mode = .ok next → next.cursor.IsIn source :=
    fun _ _ => isIn_cycle
  cycles_preserves step inside ran

/-- A scan from a machine to its end, with the characters that it dispatches. -/
inductive Halts (gap : SkipOptions) (mode : Mode) : Machine → Text → Machine → Prop
  | stopped {machine : Machine} : machine.status ≠ .scanning → Halts gap mode machine [] machine
  | exhausted {machine there last : Machine} :
      Exhausts gap machine there last → Halts gap mode machine [] last
  | dispatched {machine there next last : Machine} {head : Char} {acts : List Act} {heads : Text} :
      Dispatches gap mode machine there head acts next → Halts gap mode next heads last →
      Halts gap mode machine (head :: heads) last

/-- A bound on the cycles of a scan that is greater than the number of characters that it
dispatches makes no difference. -/
theorem Halts.cycles_eq {heads : Text} (halts : Halts gap mode machine heads last)
    (enough : heads.length < limit) : cycles gap mode limit machine = .ok last := by
  induction halts generalizing limit with
  | stopped ended => exact cycles_of_status_ne ended gap limit
  | exhausted exhausts =>
    obtain ⟨limit, rfl⟩ := Nat.exists_eq_succ_of_ne_zero (Nat.ne_of_gt enough)
    rw [cycles_succ exhausts.scanning exhausts.cycle_eq]
    exact cycles_of_status_ne (by simp [exhausts.status_eq]) gap limit
  | dispatched dispatches _ ih =>
    obtain ⟨limit, rfl⟩ := Nat.exists_eq_succ_of_ne_zero (Nat.ne_of_gt (Nat.zero_lt_of_lt enough))
    rw [cycles_succ dispatches.scanning dispatches.cycle_eq]
    exact ih (Nat.lt_of_succ_lt_succ enough)

theorem Halts.exists_cycles {heads : Text} (halts : Halts gap mode machine heads last)
    (limit : Nat) : ∃ reached, cycles gap mode limit machine = .ok reached := by
  induction halts generalizing limit with
  | stopped ended => exact ⟨_, cycles_of_status_ne ended gap limit⟩
  | exhausted exhausts =>
    cases limit with
    | zero => exact ⟨_, rfl⟩
    | succ limit =>
      rw [cycles_succ exhausts.scanning exhausts.cycle_eq]
      exact ⟨_, cycles_of_status_ne (by simp [exhausts.status_eq]) gap limit⟩
  | dispatched dispatches _ ih =>
    cases limit with
    | zero => exact ⟨_, rfl⟩
    | succ limit =>
      rw [cycles_succ dispatches.scanning dispatches.cycle_eq]
      exact ih limit

theorem Halts.status_ne {heads : Text} (halts : Halts gap mode machine heads last) :
    last.status ≠ .scanning := by
  induction halts with
  | stopped ended => exact ended
  | exhausted exhausts => simp [exhausts.status_eq]
  | dispatched _ _ ih => exact ih

private theorem exists_halts_of_splits (gap : SkipOptions) (mode : Mode) (size : Nat)
    {cursor : Cursor} {tokens : Array Token} {log : List Log.Record} {before after : Text}
    (splits : cursor.Splits before after) (measured : after.length = size) :
    ∃ heads last, Halts gap mode ⟨cursor, tokens, .scanning, log⟩ heads last ∧
      heads.Sublist after := by
  -- On the length, for what a cycle leaves unread is not the tail of what it has met.
  induction size using Nat.strongRecOn generalizing cursor tokens before after with
  | _ size ih =>
    subst measured
    have there := splits.moved_drop (Cursor.skipLength_le gap after)
    have passed := List.drop_sublist (Cursor.skipLength gap after) after
    cases meets : after.drop (Cursor.skipLength gap after) with
    | nil =>
      have exhausts := exhausts_of_end gap tokens log splits meets
      exact ⟨[], _, .exhausted exhausts, List.nil_sublist _⟩
    | cons head tail =>
      rw [meets] at there passed
      have stands := Piece.stands_ofText mode head tail
      obtain ⟨acts, dispatches⟩ := exists_dispatches gap tokens log splits meets stands
      cases goes : (Piece.ofText mode head tail).width? with
      | none =>
        have ended :=
          status_take_of_end goes (cursor.moved (Cursor.skipLength gap after)) tokens log
        exact ⟨[head], _, .dispatched dispatches (.stopped ended),
          (List.singleton_sublist.mpr (by simp)).trans passed⟩
      | some width =>
        have next := there.moved_drop (Nat.succ_le_succ (stands.width_le goes))
        have shorter : ((head :: tail).drop (width + 1)).length < after.length := by
          have bound := passed.length_le
          rw [List.length_cons] at bound
          rw [List.length_drop, List.length_cons]
          omega
        rw [take_of_width goes] at dispatches
        obtain ⟨heads, last, halts, inside⟩ := ih _ shorter next rfl
        refine ⟨head :: heads, last, .dispatched dispatches halts, ?_⟩
        exact ((inside.trans (List.drop_sublist width tail)).cons_cons head).trans passed

theorem exists_halts (gap : SkipOptions) (mode : Mode) (source : Text) (file : Option Text) :
    ∃ heads last, Halts gap mode (start source file) heads last ∧ heads.Sublist source :=
  exists_halts_of_splits gap mode source.length (Cursor.splits_ofSource source file) rfl

theorem scan_eq_close {file : Option Text}
    (ran : cycles tokenGap mode limit (start source file) = .ok next)
    (stopped : next.status ≠ .scanning) : (start source file).scan mode = next.close := by
  obtain ⟨heads, last, halts, inside⟩ := exists_halts tokenGap mode source file
  have bound := inside.length_le
  have later := cycles_add ran (source.length + 1)
  rw [cycles_of_status_ne stopped, halts.cycles_eq (by omega)] at later
  change (cycles tokenGap mode (source.length + 1) (start source file) >>= close) = _
  rw [halts.cycles_eq (by omega), later]
  rfl

end LineMark.Machine
