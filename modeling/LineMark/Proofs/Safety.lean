import LineMark.Proofs.Lexer
import LineMark.Proofs.Machine.Loop
import LineMark.Proofs.Reading.Ending

/-!
Scans end, and none leaves its source. The plan for a character fits the text that it is decided
from (`Machine.fits_plan`), so that every act of it is done in full (`Machine.carriesOut_of_fits`),
and every cycle that goes on leaves the cursor further on than it was.
-/

set_option autoImplicit false
set_option relaxedAutoImplicit false

namespace LineMark

def Act.Moves (first second : Cursor) : Act → Prop
  | .advance count | .read count => second = first.moved count
  | .retreat count => second = first.moved (-count)
  | .skip _ => ∃ count : Nat, second = first.moved count
  | .emit .. | .terminate | .fail _ => second = first

namespace Machine

open Token (CharClass)
open Unicode (isWhitespace isNumeric isAlphanumeric)

/-- The machine does the acts of the list one after another until it stops scanning, each of them in
full and all inside the source. -/
def CarriesOut (source : Text) : List Act → Machine → Prop
  | [], machine => machine.cursor.IsIn source
  | act :: acts, machine =>
    machine.cursor.IsIn source ∧
      (machine.status = .scanning → ∃ next, machine.perform act = .ok next ∧
        act.Moves machine.cursor next.cursor ∧ CarriesOut source acts next)

/-- There is room for the moves of the acts between the text before a cursor and the text after
it. -/
def Fits : Text → Text → List Act → Prop
  | _, _, [] => True
  | before, after, .advance count :: acts | before, after, .read count :: acts =>
    count ≤ after.length ∧ Fits (before ++ after.take count) (after.drop count) acts
  | before, after, .retreat count :: acts =>
    count ≤ before.length ∧
      Fits (before.take (before.length - count)) (before.drop (before.length - count) ++ after) acts
  | before, after, .skip options :: acts =>
    Fits (before ++ after.take (Cursor.skipLength options after))
      (after.drop (Cursor.skipLength options after)) acts
  | before, after, .emit _ _ :: acts => Fits before after acts
  | _, _, .terminate :: _ | _, _, .fail _ :: _ => True

variable {mode : Mode} {source before after tail : Text} {head : Char} {acts : List Act}
  {cursor : Cursor} {tokens : Array Token} {log : List Log.Record}

private theorem carriesOut_of_status_ne {machine : Machine} (stopped : machine.status ≠ .scanning)
    (inside : machine.cursor.IsIn source) (acts : List Act) : CarriesOut source acts machine := by
  cases acts with
  | nil => exact inside
  | cons act acts => exact ⟨inside, fun scanning => (stopped scanning).elim⟩

theorem carriesOut_of_fits (tokens : Array Token) (log : List Log.Record)
    (splits : cursor.Splits before after) (fits : Fits before after acts) :
    CarriesOut (before ++ after) acts ⟨cursor, tokens, .scanning, log⟩ := by
  induction acts generalizing cursor tokens before after with
  | nil => exact splits.isIn
  | cons act acts ih =>
    refine ⟨splits.isIn, fun _ => ?_⟩
    -- Past the act the two texts meet elsewhere, but the whole that they make up is the same.
    have onward : ∀ {count : Nat}, count ≤ after.length →
        Fits (before ++ after.take count) (after.drop count) acts →
        CarriesOut (before ++ after) acts ⟨cursor.moved count, tokens, .scanning, log⟩ := by
      intro count inside rest
      have carried := ih tokens (splits.moved_drop inside) rest
      rwa [List.append_assoc, List.take_append_drop] at carried
    cases act with
    | advance count | read count =>
      obtain ⟨inside, rest⟩ := fits
      refine ⟨⟨cursor.moved count, tokens, .scanning, log⟩, ?_, rfl, onward inside rest⟩
      simp only [perform, Cursor.read, splits.advance_eq inside]
    | retreat count =>
      obtain ⟨inside, rest⟩ := fits
      refine ⟨⟨cursor.moved (-count), tokens, .scanning, log⟩, ?_, rfl, ?_⟩
      · simp only [perform, splits.retreat_eq inside]
      · have back : (cursor.moved (-count)).Splits (before.take (before.length - count))
            (before.drop (before.length - count) ++ after) := by
          refine ⟨?_, ?_⟩
          · rw [← List.append_assoc, List.take_append_drop]
            exact splits.source
          · rw [Cursor.moved_offset, splits.offset, List.length_take_of_le (Nat.sub_le _ _)]
            omega
        have carried := ih tokens back rest
        rwa [← List.append_assoc, List.take_append_drop] at carried
    | skip options =>
      have within := Cursor.skipLength_le options after
      refine ⟨⟨cursor.moved (Cursor.skipLength options after), tokens, .scanning, log⟩, ?_,
        ⟨_, rfl⟩, onward within fits⟩
      simp only [perform, splits.skipWhitespace_eq options]
      rfl
    | emit kind text => exact ⟨_, rfl, rfl, ih _ splits fits⟩
    | terminate | fail =>
      exact ⟨_, rfl, rfl, carriesOut_of_status_ne (by simp [failWith]) splits.isIn acts⟩

private theorem fits_replicate {step : Act} (single : step = .advance 1 ∨ step = .read 1)
    {count : Nat} (inside : count ≤ after.length)
    (rest : Fits (before ++ after.take count) (after.drop count) acts) :
    Fits before after (List.replicate count step ++ acts) := by
  induction count generalizing before after with
  | zero => simpa using rest
  | succ count ih =>
    cases after with
    | nil => simp at inside
    | cons c after =>
      have onward : Fits (before ++ [c]) after (List.replicate count step ++ acts) :=
        ih (by simpa using inside) (by simpa using rest)
      rw [List.replicate_succ, List.cons_append]
      rcases single with rfl | rfl <;> exact ⟨by simp, onward⟩

private theorem fits_planString (tail : Text) : Fits before (head :: tail) (planString tail) := by
  unfold planString
  split
  · simp [Fits]
  · simp [Fits, (List.takeWhile_prefix _).length_le]

private theorem fits_planEquals (tail : Text) : Fits before (head :: tail) (planEquals tail) := by
  unfold planEquals
  split <;> simp [Fits]

private theorem drop_skipLength {options : SkipOptions} (unlimited : options.maxCount = none)
    (whole : options.preserveSingle = false) (unread : Text) :
    unread.drop (Cursor.skipLength options unread) = unread.dropWhile (Cursor.skips options) := by
  obtain ⟨run, rest, rfl, cut⟩ := Text.exists_isRun (Cursor.skips options) unread
  rw [Cursor.skipLength_of_isRun unlimited whole cut, List.drop_left, cut.dropWhile_eq]

private theorem fits_planStrictMarker (tail : Text) :
    Fits before (head :: tail) (planStrictMarker head tail) := by
  rw [planStrictMarker, List.append_assoc]
  refine ⟨by simp, ?_⟩
  change Fits _ (tail.drop (Cursor.skipLength {} tail)) _
  rw [drop_skipLength rfl rfl, skips_default]
  refine fits_replicate (Or.inr rfl) (List.takeWhile_prefix _).length_le ?_
  split
  · exact trivial
  · exact trivial

private theorem fits_planDebugMarker (mode : Mode) (tail : Text) :
    Fits before (head :: tail) (planDebugMarker mode head tail) := by
  refine ⟨by simp, ?_⟩
  change Fits _ (tail.drop (Cursor.skipLength (debugSkip mode) tail)) _
  rw [drop_skipLength rfl rfl]
  cases tail.dropWhile (Cursor.skips (debugSkip mode)) with
  | nil => trivial
  | cons c rest =>
    dsimp only
    split
    · exact ⟨by simp, trivial⟩
    · trivial

variable [Unicode.Database]

private theorem fits_planInteger (mode : Mode) (numeric : isNumeric head = true) (tail : Text) :
    Fits before (head :: tail) (planInteger mode head tail) := by
  have within := (List.takeWhile_prefix (l := head :: tail) isNumeric).length_le
  have some_digit : 1 ≤ ((head :: tail).takeWhile isNumeric).length := by
    rw [List.takeWhile_cons_of_pos numeric, List.length_cons]
    omega
  rw [planInteger, List.append_assoc]
  refine fits_replicate (Or.inl rfl) within ?_
  split
  · trivial
  · refine ⟨?_, trivial⟩
    rw [List.length_append, List.length_take_of_le within]
    omega

private theorem fits_planWord (head : Char) (tail : Text) :
    Fits before (head :: tail) (planWord head tail) := by
  have within : (head :: tail.takeWhile isAlphanumeric).length ≤ (head :: tail).length :=
    Nat.succ_le_succ (List.takeWhile_prefix _).length_le
  refine fits_replicate (Or.inl rfl) within ⟨?_, trivial⟩
  rw [List.length_append, List.length_take_of_le within, List.length_cons]
  omega

theorem fits_plan (planned : plan mode head tail = .ok acts) (before : Text) :
    Fits before (head :: tail) acts := by
  unfold plan at planned
  split at planned
  case h_1 | h_2 =>
    obtain rfl := Except.ok.inj planned
    exact trivial
  case h_3 => exact Except.ok.inj planned ▸ fits_planString tail
  case h_4 =>
    unfold planPunctuation at planned
    split at planned
    · obtain rfl := Except.ok.inj planned
      exact trivial
    · cases planned
  case h_5 => exact Except.ok.inj planned ▸ fits_planEquals tail
  case h_6 => exact Except.ok.inj planned ▸ fits_planStrictMarker tail
  case h_7 => exact Except.ok.inj planned ▸ fits_planDebugMarker mode tail
  case h_8 digit =>
    have numeric := CharClass.isNumeric_of_ofChar digit
    exact Except.ok.inj planned ▸ fits_planInteger mode numeric tail
  case h_9 => exact Except.ok.inj planned ▸ fits_planWord head tail

theorem Dispatches.carriesOut {gap : SkipOptions} {machine there next : Machine}
    (dispatches : Dispatches gap mode machine there head acts next)
    (inside : machine.cursor.IsIn source) : CarriesOut source acts there := by
  obtain ⟨before, after, rfl, splits⟩ := inside.exists_splits
  obtain ⟨blanks, tail, piece, rfl, -, rfl, -, -⟩ := dispatches.exists_piece splits
  have met := splits.moved blanks
  have planned : plan mode head tail = .ok acts :=
    (trace_scanner rfl met).symm.trans dispatches.traced
  rw [← List.append_assoc]
  exact carriesOut_of_fits machine.tokens machine.log met (fits_plan planned _)

theorem Dispatches.offset_lt {gap : SkipOptions} {machine there next : Machine}
    (dispatches : Dispatches gap mode machine there head acts next)
    (inside : machine.cursor.IsIn source) (goes_on : next.status = .scanning) :
    machine.cursor.offset < next.cursor.offset := by
  obtain ⟨before, after, -, splits⟩ := inside.exists_splits
  obtain ⟨blanks, tail, piece, -, -, rfl, -, rfl⟩ := dispatches.exists_piece splits
  cases goes : piece.width? with
  | none => exact (status_take_of_end goes _ _ _ goes_on).elim
  | some width =>
    rw [take_of_width goes, Cursor.moved_moved, Cursor.moved_offset]
    omega

end Machine

namespace Lexer

variable [Unicode.Database]

open Machine (start cycles tokenGap Exhausts Dispatches Halts CarriesOut)

/-- A scan ends after no more dispatches than there are characters, and it finds tokens or one of
three errors. Its cursor never leaves the source, the acts of its scanners are done in full, and
every cycle that goes on leaves the cursor further on. -/
theorem lex_safe (source : Text) (file : Option Text) (settings : Settings) :
    ((∃ tokens, (lex source file settings).outcome = .tokens tokens) ∨
      ∃ fault ∈ [Fault.unterminatedString, .unterminatedLine, .deadCode], ∃ place,
        (lex source file settings).outcome = .error ⟨fault, place⟩) ∧
    (∃ heads last, Halts tokenGap settings.mode (start source file) heads last ∧
      heads.length ≤ source.length ∧ last.status ≠ .scanning ∧
      ∀ limit > source.length, cycles tokenGap settings.mode limit (start source file) = .ok last) ∧
    ∀ limit, ∃ machine,
      cycles tokenGap settings.mode limit (start source file) = .ok machine ∧
        machine.cursor.IsIn source ∧
        (machine.status = .scanning →
          (∃ there last, Exhausts tokenGap machine there last ∧ there.cursor.IsIn source) ∨
            ∃ there head acts next, Dispatches tokenGap settings.mode machine there head acts next ∧
              there.cursor.IsIn source ∧ CarriesOut source acts there ∧
                next.cursor.IsIn source ∧
                (next.status = .scanning → machine.cursor.offset < next.cursor.offset)) := by
  obtain ⟨heads, last, halts, within⟩ := Machine.exists_halts tokenGap settings.mode source file
  refine ⟨?_, ?_, ?_⟩
  · rw [outcome_lex]
    exact Reading.outcome_cases settings.mode source file
  · have bound := within.length_le
    exact ⟨heads, last, halts, bound, halts.status_ne,
      fun limit enough => halts.cycles_eq (Nat.lt_of_le_of_lt bound enough)⟩
  · intro limit
    obtain ⟨machine, ran⟩ := halts.exists_cycles limit
    have inside := Machine.isIn_cycles (Machine.isIn_start source file) ran
    refine ⟨machine, ran, inside, fun scanning => ?_⟩
    obtain ⟨before, after, -, splits⟩ := inside.exists_splits
    rcases Machine.exhausts_or_dispatches tokenGap settings.mode splits scanning with
      ⟨there, ended, exhausts⟩ | ⟨there, head, acts, next, dispatches⟩
    · exact Or.inl ⟨there, ended, exhausts, Machine.isIn_perform inside exhausts.passed⟩
    · obtain ⟨there_inside, next_inside⟩ := dispatches.isIn inside
      exact Or.inr ⟨there, head, acts, next, dispatches, there_inside,
        dispatches.carriesOut inside, next_inside, dispatches.offset_lt inside⟩

end Lexer

end LineMark
