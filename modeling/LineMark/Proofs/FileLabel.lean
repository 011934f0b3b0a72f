import LineMark.Proofs.TokenGap
import Mathlib.Data.List.Forall2

/-!
The name of a source's file is a label. Whatever a scan does, it does the same under another name,
and every place that it tells carries the name that it was given. Two scans of a source under two
names therefore find the same in the same places, and their dumps are equal (`lex_labelled`).
-/

set_option autoImplicit false
set_option relaxedAutoImplicit false

namespace LineMark

def Location.labelled (file : Option Text) (place : Location) : Location :=
  { place with file := file }

def Token.labelled (file : Option Text) (token : Token) : Token :=
  { token with location := token.location.labelled file }

def LexError.labelled (file : Option Text) (error : LexError) : LexError :=
  { error with location := error.location.labelled file }

def Status.labelled (file : Option Text) : Status → Status
  | .scanning => .scanning
  | .terminated => .terminated
  | .failed error => .failed (error.labelled file)

namespace Cursor

def labelled (file : Option Text) (cursor : Cursor) : Cursor :=
  { cursor with file := file }

variable (file : Option Text)

theorem advance_labelled (cursor : Cursor) (count : Int) :
    (cursor.labelled file).advance count = (cursor.advance count).labelled file := by
  show (if cursor.length < cursor.offset + count then _ else _) = labelled file (if _ then _ else _)
  split <;> rfl

private theorem skipAtMost_labelled (options : SkipOptions) (count : Nat) (cursor : Cursor) :
    skipAtMost options count (cursor.labelled file) =
      labelled file <$> skipAtMost options count cursor := by
  induction count generalizing cursor with
  | zero => rfl
  | succ count ih =>
    have same : (cursor.labelled file).charAt (cursor.labelled file).offset =
        cursor.charAt cursor.offset := rfl
    rw [skipAtMost, skipAtMost, same]
    cases cursor.charAt cursor.offset with
    | error cause => rfl
    | ok c =>
      show (if skips options c then skipAtMost options count ((cursor.moved 1).labelled file)
          else .ok (cursor.labelled file)) =
        labelled file <$> if skips options c then skipAtMost options count (cursor.moved 1)
          else .ok cursor
      split
      · exact ih (cursor.moved 1)
      · rfl

theorem skipWhitespace_labelled (options : SkipOptions) (cursor : Cursor) :
    (cursor.labelled file).skipWhitespace options =
      labelled file <$> cursor.skipWhitespace options := by
  have tested : (cursor.labelled file).atPreservedSpace options =
      cursor.atPreservedSpace options := rfl
  rw [skipWhitespace, skipWhitespace, tested]
  cases cursor.atPreservedSpace options with
  | error cause => rfl
  | ok preserved =>
    cases preserved with
    | true => rfl
    | false => exact skipAtMost_labelled file options _ cursor

theorem Splits.labelled {cursor : Cursor} {before after : Text}
    (splits : cursor.Splits before after) : (cursor.labelled file).Splits before after :=
  ⟨splits.source, splits.offset⟩

end Cursor

namespace Machine

/-- The second machine is the first one with its source in a file of the given name. What they have
logged is left aside, for errors are logged with their places. -/
structure Labels (file : Option Text) (first second : Machine) : Prop where
  cursor_eq : second.cursor = first.cursor.labelled file
  tokens_eq : second.tokens = first.tokens.map (Token.labelled file)
  status_eq : second.status = first.status.labelled file

variable {file : Option Text} {first second next : Machine} {gap : SkipOptions} {mode : Mode}
  {limit : Nat} {source : Text}

theorem labels_start (source : Text) (other file : Option Text) :
    Labels file (start source other) (start source file) where
  cursor_eq := rfl
  tokens_eq := Array.map_empty.symm
  status_eq := rfl

theorem Labels.scanning_iff (labels : Labels file first second) :
    second.status = .scanning ↔ first.status = .scanning := by
  rw [labels.status_eq]
  cases first.status <;> simp [Status.labelled]

theorem Labels.perform {act : Act} (labels : Labels file first second)
    (performed : first.perform act = .ok next) :
    ∃ other, second.perform act = .ok other ∧ Labels file next other := by
  obtain ⟨cursor_eq, tokens_eq, status_eq⟩ := labels
  cases act with
  | advance count | read count =>
    obtain rfl := Except.ok.inj performed
    refine ⟨_, rfl, ?_, tokens_eq, status_eq⟩
    exact (congrArg (·.advance count) cursor_eq).trans (Cursor.advance_labelled file _ _)
  | retreat count =>
    obtain rfl := Except.ok.inj performed
    exact ⟨_, rfl, congrArg (·.retreat count) cursor_eq, tokens_eq, status_eq⟩
  | skip options =>
    obtain ⟨cursor, skipped, rfl⟩ := exists_cursor_of_skip performed
    have moved := Cursor.skipWhitespace_labelled file options first.cursor
    rw [skipped] at moved
    refine ⟨{ second with cursor := cursor.labelled file }, ?_, rfl, tokens_eq, status_eq⟩
    simp only [Machine.perform, cursor_eq, moved]
    rfl
  | emit kind text =>
    obtain rfl := Except.ok.inj performed
    refine ⟨_, rfl, cursor_eq, ?_, status_eq⟩
    simp only [tokens_eq, cursor_eq, Array.map_push]
    rfl
  | terminate =>
    obtain rfl := Except.ok.inj performed
    exact ⟨_, rfl, cursor_eq, tokens_eq, rfl⟩
  | fail fault =>
    obtain rfl := Except.ok.inj performed
    refine ⟨_, rfl, cursor_eq, tokens_eq, ?_⟩
    simp only [failWith, cursor_eq]
    rfl

theorem Labels.performAll {acts : List Act} (labels : Labels file first second)
    (performed : first.performAll acts = .ok next) :
    ∃ other, second.performAll acts = .ok other ∧ Labels file next other := by
  induction acts generalizing first second with
  | nil => exact ⟨second, rfl, Except.ok.inj performed ▸ labels⟩
  | cons act acts ih =>
    by_cases scanning : first.status = .scanning
    · cases done : first.perform act with
      | error cause =>
        rw [Machine.performAll, scanning, done] at performed
        cases performed
      | ok moved =>
        obtain ⟨other, did, onward⟩ := labels.perform done
        rw [performAll_cons scanning done] at performed
        rw [performAll_cons (labels.scanning_iff.mpr scanning) did]
        exact ih onward performed
    · rw [performAll_of_status_ne scanning] at performed
      rw [performAll_of_status_ne fun goes_on => scanning (labels.scanning_iff.mp goes_on)]
      exact ⟨second, rfl, Except.ok.inj performed ▸ labels⟩

theorem Labels.close (labels : Labels file first second) (closed : first.close = .ok next) :
    ∃ other, second.close = .ok other ∧ Labels file next other := by
  have same : second.isLineOpen = first.isLineOpen := by
    simp only [isLineOpen, labels.tokens_eq, Array.back?_map, Option.any_map]
    rfl
  unfold Machine.close at closed ⊢
  rw [labels.status_eq, same]
  cases status : first.status with
  | failed error =>
    rw [status] at closed
    exact ⟨second, rfl, Except.ok.inj closed ▸ labels⟩
  | scanning | terminated =>
    rw [status] at closed
    dsimp only [Status.labelled] at closed ⊢
    split at closed
    case isTrue line =>
      rw [if_pos line]
      exact labels.perform closed
    case isFalse line =>
      obtain rfl := Except.ok.inj closed
      rw [if_neg line]
      exact ⟨_, rfl, labels.cursor_eq, labels.tokens_eq, labels.status_eq⟩

section

variable [Unicode.Database]

/-- A cycle meets the same character under every name, and its scanner does the same. -/
theorem Labels.cycle (labels : Labels file first second) (inside : first.cursor.IsIn source)
    (scanning : first.status = .scanning) (ran : first.cycle gap mode = .ok next) :
    ∃ other, second.cycle gap mode = .ok other ∧ Labels file next other := by
  obtain ⟨before, after, -, splits⟩ := inside.exists_splits
  have goes_on := labels.scanning_iff.mpr scanning
  rcases cycle_cases splits scanning ran with ⟨there, exhausts⟩ | ⟨there, head, acts, dispatches⟩
  · obtain ⟨passed, skipped, labels_there⟩ := labels.perform exhausts.passed
    obtain ⟨other, ended, labels_next⟩ := labels_there.perform exhausts.ended
    have met : passed.cursor.peek = .ok none :=
      (congrArg Cursor.peek labels_there.cursor_eq).trans exhausts.met
    have again : Exhausts gap second passed other := ⟨goes_on, skipped, met, ended⟩
    exact ⟨other, again.cycle_eq, labels_next⟩
  · obtain ⟨passed, skipped, labels_there⟩ := labels.perform dispatches.passed
    obtain ⟨other, carried, labels_next⟩ := labels_there.performAll dispatches.carried
    have met : passed.cursor.peek = .ok (some head) :=
      (congrArg Cursor.peek labels_there.cursor_eq).trans dispatches.met
    obtain ⟨blanks, tail, piece, rfl, -, rfl, -, -⟩ := dispatches.exists_piece splits
    have here := splits.moved blanks
    have there : passed.cursor.Splits (before ++ blanks) (head :: tail) := by
      rw [labels_there.cursor_eq]
      exact here.labelled file
    -- What a scanner does is told by the texts around the cursor, and these have no name in them.
    have planned : plan mode head tail = .ok acts :=
      (trace_scanner rfl here).symm.trans dispatches.traced
    have traced : (scanner mode head).trace passed = .ok acts :=
      (trace_scanner (labels_there.scanning_iff.mpr rfl) there).trans planned
    have again : Dispatches gap mode second passed head acts other :=
      ⟨goes_on, skipped, met, traced, carried⟩
    exact ⟨other, again.cycle_eq, labels_next⟩

theorem Labels.cycles (labels : Labels file first second) (inside : first.cursor.IsIn source)
    (ran : cycles gap mode limit first = .ok next) :
    ∃ other, cycles gap mode limit second = .ok other ∧ Labels file next other := by
  induction limit generalizing first second with
  | zero => exact ⟨second, rfl, Except.ok.inj ran ▸ labels⟩
  | succ limit ih =>
    rcases cycles_succ_cases ran with ⟨stopped, rfl⟩ | ⟨scanning, moved, once, others⟩
    · have still : second.status ≠ .scanning :=
        fun goes_on => stopped (labels.scanning_iff.mp goes_on)
      exact ⟨second, cycles_of_status_ne still gap _, labels⟩
    · obtain ⟨again, did, onward⟩ := labels.cycle inside scanning once
      rw [cycles_succ (labels.scanning_iff.mpr scanning) did]
      exact ih onward (isIn_cycle inside scanning once) others

theorem exists_scan_labels {other : Option Text}
    (scanned : (start source other).scan mode = .ok first) (file : Option Text) :
    ∃ second, (start source file).scan mode = .ok second ∧ Labels file first second := by
  obtain ⟨heads, last, halts, within⟩ := exists_halts tokenGap mode source other
  have ran := halts.cycles_eq (Nat.lt_succ_of_le within.length_le)
  obtain ⟨reached, did, labels⟩ :=
    (labels_start source other file).cycles (isIn_start source other) ran
  rw [scan_eq_close ran halts.status_ne] at scanned
  rw [scan_eq_close did fun goes_on => halts.status_ne (labels.scanning_iff.mp goes_on)]
  exact labels.close scanned

end

end Machine

namespace Token

/-- The tokens are of one kind, with one text, on one line and in one column. -/
def AlikeInPlace (first second : Token) : Prop :=
  first.kind = second.kind ∧ first.text = second.text ∧
    first.location.line = second.location.line ∧ first.location.column = second.location.column

theorem alikeInPlace_labelled (tokens : List Token) (first second : Option Text) :
    List.Forall₂ AlikeInPlace (tokens.map (labelled first)) (tokens.map (labelled second)) := by
  rw [List.forall₂_map_left_iff, List.forall₂_map_right_iff, List.forall₂_same]
  intro token member
  exact ⟨rfl, rfl, rfl, rfl⟩

theorem file_labelled {tokens : List Token} {file : Option Text} {token : Token}
    (member : token ∈ tokens.map (labelled file)) : token.location.file = file := by
  obtain ⟨unlabelled, -, rfl⟩ := List.mem_map.mp member
  rfl

theorem dump_labelled [Unicode.Database] (tokens : List Token) (file : Option Text) :
    dump (tokens.map (labelled file)) = dump tokens := by
  rw [dump, dump, List.flatMap_map]
  rfl

end Token

namespace Lexer

variable [Unicode.Database]

theorem outcome_lex_labelled {source : Text} {other : Option Text} {settings : Settings}
    {machine : Machine} (scanned : (Machine.start source other).scan settings.mode = .ok machine)
    (file : Option Text) :
    (lex source file settings).outcome =
      match machine.status with
      | .failed error => .error (error.labelled file)
      | _ => .tokens (machine.tokens.toList.map (Token.labelled file)) := by
  obtain ⟨again, did, labels⟩ := Machine.exists_scan_labels scanned file
  rw [tokenize_new source file settings did, report, labels.status_eq]
  cases machine.status with
  | failed error => rfl
  | scanning | terminated =>
    rw [← Array.toList_map, ← labels.tokens_eq]
    rfl

/-- Two lexers of one source under two names either both find tokens, of the same kinds, with the
same texts and in the same lines and columns, or both find the same error in the same line and
column. Each gives every place under the name of its own file, and the dumps are equal. -/
theorem lex_labelled (source : Text) (settings : Settings) (first second : Option Text) :
    (∃ tokens others, (lex source first settings).outcome = .tokens tokens ∧
      (lex source second settings).outcome = .tokens others ∧
      List.Forall₂ Token.AlikeInPlace tokens others ∧
      (∀ token ∈ tokens, token.location.file = first) ∧
      (∀ token ∈ others, token.location.file = second) ∧
      Token.dump tokens = Token.dump others) ∨
    ∃ error other, (lex source first settings).outcome = .error error ∧
      (lex source second settings).outcome = .error other ∧
      error.fault = other.fault ∧ error.location.line = other.location.line ∧
      error.location.column = other.location.column ∧
      error.location.file = first ∧ other.location.file = second ∧ error.dump = other.dump := by
  obtain ⟨machine, scanned, -, -⟩ := Machine.scan_start settings.mode source none
  have answered := outcome_lex_labelled scanned
  cases status : machine.status with
  | failed error =>
    rw [status] at answered
    right
    exact ⟨error.labelled first, error.labelled second, answered first, answered second,
      rfl, rfl, rfl, rfl, rfl, rfl⟩
  | scanning | terminated =>
    rw [status] at answered
    left
    refine ⟨_, _, answered first, answered second, Token.alikeInPlace_labelled _ _ _, ?_, ?_, ?_⟩
    · intro token member
      exact Token.file_labelled member
    · intro token member
      exact Token.file_labelled member
    · rw [Token.dump_labelled, Token.dump_labelled]

end Lexer

end LineMark
