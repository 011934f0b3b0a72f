import LineMark.Machine.Plan
import LineMark.Proofs.Characters
import LineMark.Proofs.Machine.Program

/-!
The scanners do what the plans say. Between the texts before and after its cursor, the loop of a
scanner takes the longest run, so that the trace of every scanner is the plan for the character that
it is chosen by (`Machine.trace_scanner`), whatever else the machine holds.
-/

set_option autoImplicit false
set_option relaxedAutoImplicit false

namespace LineMark

open Text (IsRun)

namespace Machine

open Program

variable {mode : Mode} {before tail : Text} {head : Char}

private theorem find?_of_isRun {c : Char} {inside rest : Text} (cut : IsRun (· ≠ c) inside rest) :
    (before ++ (inside ++ rest)).find? c before.length =
      if rest = [] then none else some ((before.length + inside.length : Nat) : Int) := by
  have outside : inside.findIdx? (· = c) = none := by
    simpa using cut.holds
  rw [Text.find?, Text.before_natCast, List.drop_left, List.findIdx?_append, outside]
  cases rest with
  | nil => rfl
  | cons first rest =>
    have found : first = c := by simpa using cut.stops first rfl
    simp [List.findIdx?_cons, found]

private theorem slice_passed {inside : Text} :
    (before ++ inside ++ tail).slice before.length (before ++ inside).length = inside := by
  rw [List.append_assoc, List.length_append, Text.slice_append]

theorem traces_scanString : Traces scanString before (head :: tail) (planString tail) := by
  obtain ⟨inside, rest, rfl, cut⟩ := Text.exists_isRun (· ≠ '"') tail
  rw [planString, cut.dropWhile_eq, cut.takeWhile_eq]
  refine traces_advance_one ?_
  refine traces_offset (traces_find? ?_)
  rw [find?_of_isRun cut]
  cases rest with
  | nil =>
    rw [List.append_nil, if_pos rfl]
    exact traces_remainingLength (traces_advance_all traces_fail)
  | cons quote rest =>
    rw [if_neg (List.cons_ne_nil _ _)]
    dsimp only
    have distance : (((before ++ [head]).length + inside.length : Nat) -
        (before ++ [head]).length : Int).toNat = inside.length := by omega
    rw [distance]
    refine traces_advance inside (traces_slice ?_)
    rw [← List.length_append, slice_passed]
    exact traces_emit traces_done

theorem traces_scanEquals : Traces scanEquals before (head :: tail) (planEquals tail) := by
  refine traces_peekAt ?_
  unfold planEquals
  split
  case isTrue arrow =>
    obtain ⟨rest, rfl⟩ : ∃ rest, tail = '>' :: rest := by
      cases tail with
      | nil => cases arrow
      | cons c rest => exact ⟨rest, by rw [Option.some.inj arrow]⟩
    refine traces_advance_one ?_
    exact traces_emit traces_done
  case isFalse => exact traces_emit traces_done

theorem traces_scanInteger [Unicode.Database] :
    Traces (scanInteger mode) before (head :: tail) (planInteger mode head tail) := by
  obtain ⟨digits, rest, split, cut⟩ := Text.exists_isRun Unicode.isNumeric (head :: tail)
  rw [planInteger, split, cut.takeWhile_eq, List.append_assoc]
  refine traces_offset (traces_remainingLength (traces_advanceWhile cut (by simp; omega) ?_))
  refine traces_offset (traces_slice ?_)
  rw [slice_passed]
  refine traces_emit ?_
  cases mode.skipAfterInteger with
  | true => exact traces_done
  | false => exact traces_retreat 1

theorem traces_scanWord [Unicode.Database] :
    Traces scanWord before (head :: tail) (planWord head tail) := by
  obtain ⟨letters, rest, rfl, cut⟩ := Text.exists_isRun Unicode.isAlphanumeric tail
  rw [planWord, cut.takeWhile_eq]
  refine traces_offset ?_
  refine traces_advance_one ?_
  refine traces_remainingLength (traces_advanceWhile cut (by simp; omega) ?_)
  refine traces_offset (traces_slice ?_)
  rw [List.append_assoc before, slice_passed]
  exact traces_emit (traces_retreat 1)

theorem traces_readTrailers {trailers rest : Text} {acts : List Act} {limit : Nat}
    {next : Text → Program Unit} (cut : IsRun isStrictTrailer trailers rest)
    (enough : (trailers ++ rest).length ≤ limit)
    (ends : rest = [] ∧ Traces (next trailers) (before ++ trailers) [] acts ∨
      rest ≠ [] ∧ acts = [.fail .deadCode]) :
    Traces (readTrailers limit >>= next) before (trailers ++ rest)
      (List.replicate trailers.length (.read 1) ++ acts) := by
  -- Each round puts its character before the text of the later ones, so `next` changes with them.
  induction trailers generalizing before limit next with
  | nil =>
    rcases ends with ⟨rfl, goes_on⟩ | ⟨goes_beyond, rfl⟩
    · rw [List.append_nil] at goes_on
      cases limit with
      | zero => exact goes_on
      | succ limit =>
        rw [readTrailers, bind_assoc]
        exact traces_hasRemaining_end goes_on
    · obtain ⟨c, rest, rfl⟩ := List.exists_cons_of_ne_nil goes_beyond
      have refused : isStrictTrailer c = false := cut.stops c rfl
      cases limit with
      | zero => cases enough
      | succ limit =>
        rw [readTrailers]
        refine traces_tested ?_
        rw [refused, if_neg Bool.false_ne_true]
        exact traces_fail
  | cons c trailers ih =>
    cases limit with
    | zero => cases enough
    | succ limit =>
      rw [readTrailers]
      refine traces_tested ?_
      rw [cut.head, if_pos rfl, bind_assoc]
      refine traces_read ?_
      rw [bind_assoc]
      refine ih cut.tail (Nat.le_of_succ_le_succ enough) ?_
      rcases ends with ⟨rfl, goes_on⟩ | failed
      · exact Or.inl ⟨rfl, by rwa [List.append_assoc]⟩
      · exact Or.inr failed

theorem traces_skip_all {options : SkipOptions} {blanks rest : Text} {acts : List Act}
    {next : Unit → Program Unit} (unlimited : options.maxCount = none)
    (whole : options.preserveSingle = false) (cut : IsRun (Cursor.skips options) blanks rest)
    (goes_on : Traces (next ()) (before ++ blanks) rest acts) :
    Traces (skip options >>= next) before (blanks ++ rest) (.skip options :: acts) := by
  refine traces_skip ?_
  rwa [Cursor.skipLength_of_isRun unlimited whole cut, List.take_left, List.drop_left]

theorem skips_default : Cursor.skips {} = Unicode.isWhitespace := by
  funext c
  simp [Cursor.skips]

theorem traces_scanStrictMarker :
    Traces scanStrictMarker before (head :: tail) (planStrictMarker head tail) := by
  obtain ⟨blanks, after, rfl, blank⟩ := Text.exists_isRun Unicode.isWhitespace tail
  obtain ⟨trailers, rest, rfl, cut⟩ := Text.exists_isRun isStrictTrailer after
  rw [planStrictMarker, blank.dropWhile_eq, cut.takeWhile_eq, cut.dropWhile_eq, List.append_assoc]
  refine traces_read (traces_skip_all rfl rfl (skips_default ▸ blank) ?_)
  refine traces_remainingLength (traces_readTrailers cut (Nat.le_refl _) ?_)
  cases rest with
  | nil => exact Or.inl ⟨rfl, traces_emit traces_terminate⟩
  | cons c rest => exact Or.inr ⟨List.cons_ne_nil c rest, rfl⟩

theorem traces_scanDebugMarker :
    Traces (scanDebugMarker mode) before (head :: tail) (planDebugMarker mode head tail) := by
  obtain ⟨blanks, rest, rfl, cut⟩ := Text.exists_isRun (Cursor.skips (debugSkip mode)) tail
  rw [planDebugMarker, cut.dropWhile_eq]
  refine traces_read (traces_skip_all rfl rfl cut ?_)
  cases rest with
  | nil => exact traces_hasRemaining_end (traces_emit traces_terminate)
  | cons c rest =>
    refine traces_hasRemaining (traces_peek ?_)
    by_cases line : c = '\n'
    · rw [if_pos (congrArg some line)]
      simp only [line, if_true]
      exact traces_advance_one (traces_emit traces_terminate)
    · rw [if_neg fun same => line (Option.some.inj same)]
      simp only [line, if_false]
      exact traces_fail

section

variable [Unicode.Database]

/-- What a scanner does is the plan for the character that it is chosen by, wherever that character
stands and whatever the machine has found before. -/
theorem trace_scanner {machine : Machine} (scanning : machine.status = .scanning)
    (splits : machine.cursor.Splits before (head :: tail)) :
    (scanner mode head).trace machine = plan mode head tail := by
  unfold scanner plan
  cases Token.CharClass.ofChar head with
  | space | skip => exact traces_done machine scanning splits
  | quote => exact traces_scanString machine scanning splits
  | punctuation =>
    dsimp only
    unfold scanPunctuation planPunctuation
    cases Token.CharClass.punctuationKinds.lookup head with
    | none => rfl
    | some kind => exact traces_emit traces_done machine scanning splits
  | equals => exact traces_scanEquals machine scanning splits
  | strictMarker => exact traces_scanStrictMarker machine scanning splits
  | debugMarker => exact traces_scanDebugMarker machine scanning splits
  | digit => exact traces_scanInteger machine scanning splits
  | letter => exact traces_scanWord machine scanning splits

end

end Machine

end LineMark
