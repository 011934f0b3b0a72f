import LineMark.Proofs.Machine.Scanner
import LineMark.Proofs.Reading.Piece

/-!
Plans carried out. To carry out the plan for a character and advance by one is to take the piece
that stands at the character (`performAll_plan`), however the plan moves the cursor meanwhile.
-/

set_option autoImplicit false
set_option relaxedAutoImplicit false

namespace LineMark.Machine

open Token (CharClass)
open Text (IsRun)
open Unicode (isWhitespace isNumeric isAlphabetic isAlphanumeric)

/-- The machine after the piece that stands under its cursor. -/
def take (machine : Machine) : Piece → Machine
  | .gap => { machine with cursor := machine.cursor.moved 1 }
  | .lexeme kind text place width =>
    { machine with
      cursor := machine.cursor.moved (width + 1 : Nat)
      tokens := machine.tokens.push ⟨kind, text, (machine.cursor.moved place).location⟩ }
  | .marker kind text place =>
    { machine with
      cursor := machine.cursor.moved place
      tokens := machine.tokens.push ⟨kind, text, (machine.cursor.moved place).location⟩
      status := .terminated }
  | .fault fault place => { machine with cursor := machine.cursor.moved place }.failWith fault

variable {mode : Mode} {cursor : Cursor} {tokens : Array Token} {log : List Log.Record}
  {before after tail : Text} {head : Char} {acts : List Act}

private theorem performAll_advance (splits : cursor.Splits before after) {count : Nat}
    (inside : count ≤ after.length) :
    performAll (.advance count :: acts) ⟨cursor, tokens, .scanning, log⟩ =
      performAll acts ⟨cursor.moved count, tokens, .scanning, log⟩ := by
  change performAll acts ⟨cursor.advance count, tokens, .scanning, log⟩ = _
  rw [splits.advance_eq inside]

private theorem performAll_retreat_advance (splits : cursor.Splits before after)
    (inside : 1 ≤ before.length) :
    performAll [.retreat 1, .advance 1] ⟨cursor, tokens, .scanning, log⟩ =
      .ok ⟨cursor, tokens, .scanning, log⟩ := by
  change Except.ok (⟨(cursor.retreat 1).advance 1, tokens, .scanning, log⟩ : Machine) = _
  have back : (cursor.retreat 1).advance 1 = cursor := splits.advance_retreat inside
  rw [back]

private theorem performAll_skip (splits : cursor.Splits before after) (options : SkipOptions) :
    performAll (.skip options :: acts) ⟨cursor, tokens, .scanning, log⟩ =
      performAll acts ⟨cursor.moved (Cursor.skipLength options after), tokens, .scanning, log⟩ := by
  have performed : (⟨cursor, tokens, .scanning, log⟩ : Machine).perform (.skip options) =
      .ok ⟨cursor.moved (Cursor.skipLength options after), tokens, .scanning, log⟩ := by
    simp only [perform, splits.skipWhitespace_eq options]
    rfl
  simp only [performAll, performed]
  rfl

private theorem perform_read (machine : Machine) :
    machine.perform (.read 1) = machine.perform (.advance 1) := rfl

private theorem performAll_replicate {step : Act}
    (moves : ∀ machine : Machine, machine.perform step = machine.perform (.advance 1))
    (count : Nat) (splits : cursor.Splits before after) (inside : count ≤ after.length) :
    performAll (List.replicate count step ++ acts) ⟨cursor, tokens, .scanning, log⟩ =
      performAll acts ⟨cursor.moved count, tokens, .scanning, log⟩ := by
  induction count generalizing cursor before after with
  | zero => simp
  | succ count ih =>
    cases after with
    | nil => simp at inside
    | cons c rest =>
      have next : (cursor.moved 1).Splits (before ++ [c]) rest := splits.moved [c]
      have same : ∀ acts : List Act, ∀ machine : Machine,
          performAll (step :: acts) machine = performAll (.advance 1 :: acts) machine := by
        intro acts machine
        simp only [performAll, moves]
      rw [List.replicate_succ, List.cons_append, same,
        performAll_advance splits (Nat.le_add_left 1 rest.length)]
      change performAll _ ⟨cursor.moved 1, tokens, .scanning, log⟩ = _
      rw [ih next (by simpa using inside), Cursor.moved_moved]
      congr 3
      omega

private theorem performAll_planString {inside rest : Text} (unquoted : '"' ∉ inside)
    (splits : cursor.Splits before ('"' :: (inside ++ '"' :: rest))) :
    performAll (planString (inside ++ '"' :: rest) ++ [.advance 1])
        ⟨cursor, tokens, .scanning, log⟩ =
      .ok (take ⟨cursor, tokens, .scanning, log⟩
        (.lexeme .stringLiteral inside (inside.length + 1) (inside.length + 1))) := by
  have cut : IsRun (· ≠ '"') inside ('"' :: rest) := Text.isRun_ne unquoted (by simp)
  have opened : (cursor.moved 1).Splits (before ++ ['"']) (inside ++ '"' :: rest) :=
    splits.moved ['"']
  have closing := opened.moved inside
  rw [planString, cut.dropWhile_eq]
  simp only [cut.takeWhile_eq, List.cons_append, List.nil_append]
  rw [performAll_advance splits (by simp)]
  change performAll _ ⟨cursor.moved 1, tokens, .scanning, log⟩ = _
  rw [performAll_advance opened (by simp)]
  change performAll _ ⟨_, tokens.push _, .scanning, log⟩ = _
  rw [performAll_advance closing (by simp)]
  simp [performAll, take, Int.add_comm, Int.add_left_comm]

private theorem performAll_planString_open (unquoted : '"' ∉ tail)
    (splits : cursor.Splits before ('"' :: tail)) :
    performAll (planString tail ++ [.advance 1]) ⟨cursor, tokens, .scanning, log⟩ =
      .ok (take ⟨cursor, tokens, .scanning, log⟩
        (.fault .unterminatedString (tail.length + 1))) := by
  have cut : IsRun (· ≠ '"') tail [] := Text.isRun_ne unquoted (by simp)
  have opened : (cursor.moved 1).Splits (before ++ ['"']) tail := splits.moved ['"']
  have none_left : tail.dropWhile (· ≠ '"') = [] := by simpa using cut.dropWhile_eq
  rw [planString, none_left]
  simp only [List.cons_append, List.nil_append]
  rw [performAll_advance splits (by simp)]
  change performAll _ ⟨cursor.moved 1, tokens, .scanning, log⟩ = _
  rw [performAll_advance opened (Nat.le_refl _), Cursor.moved_moved, Int.add_comm]
  rfl

private theorem performAll_emit (kind : Token.Kind) (text : Text)
    (splits : cursor.Splits before (head :: tail)) :
    performAll ([.emit kind text] ++ [.advance 1]) ⟨cursor, tokens, .scanning, log⟩ =
      .ok (take ⟨cursor, tokens, .scanning, log⟩ (.lexeme kind text 0 0)) := by
  change performAll [.advance 1] ⟨cursor, tokens.push _, .scanning, log⟩ = _
  rw [performAll_advance splits (by simp)]
  simp [performAll, take]

private theorem performAll_arrow {rest : Text}
    (splits : cursor.Splits before ('=' :: '>' :: rest)) :
    performAll (planEquals ('>' :: rest) ++ [.advance 1]) ⟨cursor, tokens, .scanning, log⟩ =
      .ok (take ⟨cursor, tokens, .scanning, log⟩ (.lexeme .arrow "=>".toList 1 1)) := by
  have second : (cursor.moved 1).Splits (before ++ ['=']) ('>' :: rest) := splits.moved ['=']
  change performAll [.advance 1, .emit .arrow "=>".toList, .advance 1] _ = _
  rw [performAll_advance splits (by simp)]
  change performAll [.advance 1] ⟨cursor.moved 1, tokens.push _, .scanning, log⟩ = _
  rw [performAll_advance second (by simp)]
  simp [performAll, take]

private theorem planEquals_of_ne (other : tail.head? ≠ some '>') :
    planEquals tail = [.emit .equals "=".toList] :=
  if_neg other

private theorem skips_debugSkip (mode : Mode) :
    Cursor.skips (debugSkip mode) = Piece.isMarkerBlank mode := by
  funext c
  cases crosses : mode.markerCrossesLines <;>
    simp [Cursor.skips, debugSkip, Piece.isMarkerBlank, crosses, bne]

private theorem isRun_isStrictTrailer {trailers rest : Text}
    (allowed : ∀ c ∈ trailers, c = '!' ∨ c = '\n')
    (stop : ∀ c ∈ rest.head?, ¬(c = '!' ∨ c = '\n')) : IsRun isStrictTrailer trailers rest where
  holds c member := by simpa [isStrictTrailer, strictTrailers] using allowed c member
  stops c member := by
    have refused := stop c member
    simpa [isStrictTrailer, strictTrailers] using refused

private theorem performAll_read_skip {options : SkipOptions} {blanks rest : Text}
    (unlimited : options.maxCount = none) (whole : options.preserveSingle = false)
    (cut : IsRun (Cursor.skips options) blanks rest)
    (splits : cursor.Splits before (head :: (blanks ++ rest))) :
    performAll (.read 1 :: .skip options :: acts) ⟨cursor, tokens, .scanning, log⟩ =
      performAll acts ⟨cursor.moved (blanks.length + 1 : Nat), tokens, .scanning, log⟩ := by
  have opened : (cursor.moved 1).Splits (before ++ [head]) (blanks ++ rest) :=
    splits.moved [head]
  change performAll (.advance 1 :: .skip options :: acts) ⟨cursor, tokens, .scanning, log⟩ = _
  rw [performAll_advance splits (by simp)]
  change performAll (.skip options :: acts) ⟨cursor.moved 1, tokens, .scanning, log⟩ = _
  rw [performAll_skip opened, Cursor.skipLength_of_isRun unlimited whole cut, Cursor.moved_moved,
    Int.add_comm]
  rfl

private theorem performAll_strict {blanks trailers rest : Text}
    (cut : IsRun isWhitespace blanks (trailers ++ rest))
    (splits : cursor.Splits before ('!' :: (blanks ++ (trailers ++ rest)))) :
    performAll (.read 1 :: .skip {} :: (List.replicate trailers.length (.read 1) ++ acts))
        ⟨cursor, tokens, .scanning, log⟩ =
      performAll acts
        ⟨cursor.moved (blanks.length + trailers.length + 1 : Nat), tokens, .scanning, log⟩ := by
  have skipped : (cursor.moved (blanks.length + 1 : Nat)).Splits (before ++ '!' :: blanks)
      (trailers ++ rest) :=
    splits.moved ('!' :: blanks)
  rw [performAll_read_skip rfl rfl (skips_default ▸ cut) splits,
    performAll_replicate perform_read _ skipped (by simp), Cursor.moved_moved]
  congr 3
  omega

private theorem performAll_planStrictMarker {blanks trailers : Text}
    (cut : IsRun isWhitespace blanks trailers) (allowed : ∀ c ∈ trailers, c = '!' ∨ c = '\n')
    (splits : cursor.Splits before ('!' :: (blanks ++ trailers))) :
    performAll (planStrictMarker '!' (blanks ++ trailers) ++ [.advance 1])
        ⟨cursor, tokens, .scanning, log⟩ =
      .ok (take ⟨cursor, tokens, .scanning, log⟩
        (.marker .endOfLine ('!' :: trailers) (blanks.length + trailers.length + 1))) := by
  have trail : IsRun isStrictTrailer trailers [] := isRun_isStrictTrailer allowed (by simp)
  have none_left : trailers.dropWhile isStrictTrailer = [] := by simpa using trail.dropWhile_eq
  simp only [planStrictMarker, cut.dropWhile_eq, trail.takeWhile_self, none_left,
    List.append_assoc, List.cons_append, List.nil_append]
  rw [← List.append_nil trailers] at cut splits
  rw [performAll_strict cut splits]
  rfl

private theorem performAll_planStrictMarker_fault {blanks trailers rest : Text} {bad : Char}
    (cut : IsRun isWhitespace blanks (trailers ++ bad :: rest))
    (allowed : ∀ c ∈ trailers, c = '!' ∨ c = '\n') (refused : ¬(bad = '!' ∨ bad = '\n'))
    (splits : cursor.Splits before ('!' :: (blanks ++ (trailers ++ bad :: rest)))) :
    performAll (planStrictMarker '!' (blanks ++ (trailers ++ bad :: rest)) ++ [.advance 1])
        ⟨cursor, tokens, .scanning, log⟩ =
      .ok (take ⟨cursor, tokens, .scanning, log⟩
        (.fault .deadCode (blanks.length + trailers.length + 1))) := by
  have trail : IsRun isStrictTrailer trailers (bad :: rest) :=
    isRun_isStrictTrailer allowed (by simpa using refused)
  simp only [planStrictMarker, cut.dropWhile_eq, trail.takeWhile_eq, trail.dropWhile_eq,
    List.append_assoc, List.cons_append, List.nil_append]
  rw [performAll_strict cut splits]
  rfl

private theorem performAll_debugSkip {blanks rest : Text}
    (cut : IsRun (Piece.isMarkerBlank mode) blanks rest)
    (splits : cursor.Splits before ('?' :: (blanks ++ rest))) :
    performAll (.read 1 :: .skip (debugSkip mode) :: acts) ⟨cursor, tokens, .scanning, log⟩ =
      performAll acts ⟨cursor.moved (blanks.length + 1 : Nat), tokens, .scanning, log⟩ :=
  performAll_read_skip rfl rfl (skips_debugSkip mode ▸ cut) splits

private theorem dropWhile_skips_debugSkip {blanks rest : Text}
    (cut : IsRun (Piece.isMarkerBlank mode) blanks rest) :
    (blanks ++ rest).dropWhile (Cursor.skips (debugSkip mode)) = rest := by
  rw [skips_debugSkip, cut.dropWhile_eq]

private theorem planDebugMarker_of_ne {blanks rest : Text} {bad : Char}
    (cut : IsRun (Piece.isMarkerBlank mode) blanks (bad :: rest)) (other : bad ≠ '\n') :
    planDebugMarker mode '?' (blanks ++ bad :: rest) =
      [.read 1, .skip (debugSkip mode), .fail .deadCode] := by
  simp only [planDebugMarker, dropWhile_skips_debugSkip cut, if_neg other]
  rfl

variable [Unicode.Database]

private theorem performAll_digits {digits rest : Text} (numeric : isNumeric head = true)
    (cut : IsRun isNumeric digits rest)
    (splits : cursor.Splits before (head :: (digits ++ rest))) :
    performAll (planInteger mode head (digits ++ rest) ++ acts) ⟨cursor, tokens, .scanning, log⟩ =
      performAll ((if mode.skipAfterInteger then [] else [.retreat 1]) ++ acts)
        ⟨cursor.moved (digits.length + 1 : Nat),
          tokens.push ⟨.intLiteral, head :: digits,
            (cursor.moved (digits.length + 1 : Nat)).location⟩,
          .scanning, log⟩ := by
  have taken : (head :: (digits ++ rest)).takeWhile isNumeric = head :: digits := by
    rw [List.takeWhile_cons_of_pos numeric, cut.takeWhile_eq]
  simp only [planInteger, taken, List.append_assoc, List.length_cons]
  rw [performAll_replicate (fun _ => rfl) _ splits (by simp)]
  rfl

private theorem performAll_planInteger {digits rest : Text} (numeric : isNumeric head = true)
    (cut : IsRun isNumeric digits rest) (keeps : mode.skipAfterInteger = true → rest = [])
    (splits : cursor.Splits before (head :: (digits ++ rest))) :
    performAll (planInteger mode head (digits ++ rest) ++ [.advance 1])
        ⟨cursor, tokens, .scanning, log⟩ =
      .ok (take ⟨cursor, tokens, .scanning, log⟩
        (.lexeme .intLiteral (head :: digits) (digits.length + 1) digits.length)) := by
  have passed : (cursor.moved (digits.length + 1 : Nat)).Splits (before ++ head :: digits) rest :=
    splits.moved (head :: digits)
  rw [performAll_digits numeric cut splits]
  cases skips : mode.skipAfterInteger with
  | true =>
    obtain rfl := keeps skips
    have still : (cursor.moved (digits.length + 1 : Nat)).advance 1 = _ :=
      passed.advance_eq_self Nat.one_pos
    change Except.ok (⟨(cursor.moved (digits.length + 1 : Nat)).advance 1, _, _, _⟩ : Machine) = _
    rw [still]
    rfl
  | false =>
    change performAll [.retreat 1, .advance 1] _ = _
    rw [performAll_retreat_advance passed (by simp; omega)]
    rfl

private theorem performAll_planInteger_skip {digits rest : Text} {swallowed : Char}
    (numeric : isNumeric head = true) (cut : IsRun isNumeric digits (swallowed :: rest))
    (skips : mode.skipAfterInteger = true)
    (splits : cursor.Splits before (head :: (digits ++ swallowed :: rest))) :
    performAll (planInteger mode head (digits ++ swallowed :: rest) ++ [.advance 1])
        ⟨cursor, tokens, .scanning, log⟩ =
      .ok (take ⟨cursor, tokens, .scanning, log⟩
        (.lexeme .intLiteral (head :: digits) (digits.length + 1) (digits.length + 1))) := by
  have passed : (cursor.moved (digits.length + 1 : Nat)).Splits (before ++ head :: digits)
      (swallowed :: rest) :=
    splits.moved (head :: digits)
  rw [performAll_digits numeric cut splits, if_pos skips]
  change performAll [.advance 1] _ = _
  rw [performAll_advance passed (by simp), Cursor.moved_moved]
  rfl

private theorem performAll_planWord {letters rest : Text}
    (cut : IsRun isAlphanumeric letters rest)
    (splits : cursor.Splits before (head :: (letters ++ rest))) :
    performAll (planWord head (letters ++ rest) ++ [.advance 1]) ⟨cursor, tokens, .scanning, log⟩ =
      .ok (take ⟨cursor, tokens, .scanning, log⟩
        (.lexeme (Token.Word.kind (head :: letters)) (head :: letters) (letters.length + 1)
          letters.length)) := by
  have passed : (cursor.moved (letters.length + 1 : Nat)).Splits (before ++ head :: letters) rest :=
    splits.moved (head :: letters)
  simp only [planWord, cut.takeWhile_eq, List.append_assoc, List.length_cons]
  rw [performAll_replicate (fun _ => rfl) _ splits (by simp)]
  change performAll [.retreat 1, .advance 1] ⟨cursor.moved (letters.length + 1 : Nat),
    tokens.push _, .scanning, log⟩ = _
  rw [performAll_retreat_advance passed (by simp; omega)]
  rfl

private theorem plan_of_punctuation {kind : Token.Kind}
    (member : (head, kind) ∈ CharClass.punctuationKinds) :
    plan mode head tail = .ok [.emit kind [head]] := by
  simp only [CharClass.punctuationKinds, List.mem_cons, Prod.mk.injEq, List.not_mem_nil,
    or_false] at member
  rcases member with ⟨rfl, rfl⟩ | ⟨rfl, rfl⟩ | ⟨rfl, rfl⟩ | ⟨rfl, rfl⟩ | ⟨rfl, rfl⟩ |
    ⟨rfl, rfl⟩ <;> rfl

/-- The plan for a character takes the piece that stands at the character. -/
theorem performAll_plan {piece : Piece} (tokens : Array Token) (log : List Log.Record)
    (splits : cursor.Splits before (head :: tail)) (stands : Piece.Stands mode head tail piece) :
    ∃ acts, plan mode head tail = .ok acts ∧
      performAll (acts ++ [.advance 1]) ⟨cursor, tokens, .scanning, log⟩ =
        .ok (take ⟨cursor, tokens, .scanning, log⟩ piece) := by
  cases stands with
  | blank blank =>
    refine ⟨[], ?_, performAll_advance splits (by simp)⟩
    rcases CharClass.ofChar_of_isWhitespace blank with space | skip
    · simp only [plan, space]
    · simp only [plan, skip]
  | skipped skipped =>
    refine ⟨[], ?_, performAll_advance splits (by simp)⟩
    simp only [plan, skipped]
  | string unquoted => exact ⟨_, rfl, performAll_planString unquoted splits⟩
  | openString unquoted => exact ⟨_, rfl, performAll_planString_open unquoted splits⟩
  | punctuation member =>
    exact ⟨_, plan_of_punctuation member, performAll_emit _ _ splits⟩
  | arrow => exact ⟨_, rfl, performAll_arrow splits⟩
  | equals other =>
    refine ⟨_, rfl, ?_⟩
    rw [planEquals_of_ne other]
    exact performAll_emit _ _ splits
  | integer numeric cut keeps =>
    refine ⟨_, ?_, performAll_planInteger numeric cut keeps splits⟩
    simp only [plan, CharClass.ofChar_of_isNumeric numeric]
  | integerSkip numeric cut skips =>
    refine ⟨_, ?_, performAll_planInteger_skip numeric cut skips splits⟩
    simp only [plan, CharClass.ofChar_of_isNumeric numeric]
  | word plain letter cut =>
    refine ⟨_, ?_, performAll_planWord cut splits⟩
    simp only [plan, CharClass.ofChar_of_isAlphabetic plain letter]
  | strictMarker cut allowed => exact ⟨_, rfl, performAll_planStrictMarker cut allowed splits⟩
  | strictFault cut allowed refused =>
    exact ⟨_, rfl, performAll_planStrictMarker_fault cut allowed refused splits⟩
  | debugMarker blanks =>
    have cut : IsRun (Piece.isMarkerBlank mode) tail [] := ⟨blanks, by simp⟩
    have rest_eq := dropWhile_skips_debugSkip cut
    rw [List.append_nil] at rest_eq
    refine ⟨_, rfl, ?_⟩
    simp only [planDebugMarker, rest_eq]
    exact performAll_debugSkip cut (by rwa [List.append_nil])
  | @debugLine blanks rest cut =>
    have skipped : (cursor.moved (blanks.length + 1 : Nat)).Splits (before ++ '?' :: blanks)
        ('\n' :: rest) :=
      splits.moved ('?' :: blanks)
    refine ⟨_, rfl, ?_⟩
    simp only [planDebugMarker, dropWhile_skips_debugSkip cut, if_true, List.cons_append,
      List.nil_append]
    rw [performAll_debugSkip cut splits, performAll_advance skipped (by simp), Cursor.moved_moved]
    rfl
  | debugFault cut other =>
    refine ⟨_, rfl, ?_⟩
    rw [planDebugMarker_of_ne cut other]
    exact performAll_debugSkip cut splits

end LineMark.Machine
