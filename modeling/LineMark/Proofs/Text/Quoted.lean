import LineMark.Proofs.Runs
import LineMark.Text.Quoted

/-!
Quotations can be read back. The forms of single code points are read one at a time, whatever
follows them, so that a quotation gives its text back and two texts never have the same one. Nothing
in a quotation is unprintable, and so no surrogate is left in it.
-/

set_option autoImplicit false
set_option relaxedAutoImplicit false

namespace LineMark

open Unicode (isUnprintable)

namespace Text

theorem toCodeText_cons (c : Char) (text : Text) :
    toCodeText (c :: text) = .ofChar c :: toCodeText text := rfl

theorem mapM_toChar?_toCodeText (text : Text) :
    (toCodeText text).mapM CodePoint.toChar? = some text := by
  induction text with
  | nil => rfl
  | cons c text ih =>
    rw [toCodeText_cons, List.mapM_cons, CodePoint.toChar?_ofChar, ih]
    rfl

theorem toCodeText_inj {first second : Text} :
    toCodeText first = toCodeText second ↔ first = second := by
  refine ⟨fun same => ?_, fun same => same ▸ rfl⟩
  have read := congrArg (List.mapM CodePoint.toChar?) same
  rw [mapM_toChar?_toCodeText, mapM_toChar?_toCodeText] at read
  exact Option.some.inj read

theorem toCodeText_filterMap {points : CodeText}
    (whole : ∀ point ∈ points, point.isSurrogate = false) :
    toCodeText (points.filterMap CodePoint.toChar?) = points := by
  induction points with
  | nil => rfl
  | cons point points ih =>
    obtain ⟨c, rfl⟩ := CodePoint.exists_ofChar (whole point List.mem_cons_self)
    rw [List.filterMap_cons_some (CodePoint.toChar?_ofChar c), toCodeText_cons,
      ih fun other member => whole other (List.mem_cons_of_mem _ member)]

theorem exists_digit_of_mem_toCodeText_hex {n : Nat} {point : CodePoint}
    (member : point ∈ toCodeText (Numeral.hex n)) :
    ∃ d < 16, point = CodePoint.ofChar (Nat.digitChar d) := by
  obtain ⟨c, digit, rfl⟩ := List.mem_map.mp member
  obtain ⟨d, small, rfl⟩ := Numeral.exists_digit_of_mem_hex digit
  exact ⟨d, small, rfl⟩

end Text

namespace CodeText

theorem unquoteTail_cons {head point : CodePoint} {tail : CodeText} {width : Nat}
    (read : readForm? head tail = some (point, width)) :
    unquoteTail (head :: tail) = (point :: ·) <$> unquoteTail (tail.drop width) := by
  have no_quote : head ≠ '"' := by
    rintro rfl
    simp [readForm?] at read
  rw [unquoteTail, if_neg fun both => no_quote both.1, read]
  change (do return point :: (← unquoteTail (tail.drop width))) = _
  cases unquoteTail (tail.drop width) <;> rfl

private theorem readForm?_letter {point : CodePoint} {letter : Char}
    (listed : (point, letter) ∈ escapes) (rest : CodeText) :
    readForm? '\\' (letter :: rest) = some (point, 1) := by
  have all : ∀ entry ∈ escapes, (entry.2 : CodePoint) ≠ 'u' ∧
      unescape? entry.2 = some entry.1 := by decide
  obtain ⟨no_value, read⟩ := all (point, letter) listed
  rw [readForm?, if_neg (by decide), if_pos rfl, if_neg no_value, read]
  rfl

private theorem readForm?_braces (point : CodePoint) (rest : CodeText) :
    readForm? '\\' ('u' :: '\x7b' :: ((Text.Numeral.hex point.value).toCodeText ++
      .ofChar '\x7d' :: rest)) =
      some (point, (Text.Numeral.hex point.value).toCodeText.length + 3) := by
  have closed : CodePoint.ofChar '\x7d' ∉ (Text.Numeral.hex point.value).toCodeText := by
    intro member
    obtain ⟨d, small, same⟩ := Text.exists_digit_of_mem_toCodeText_hex member
    have other : ∀ d < 16, CodePoint.ofChar '\x7d' ≠ .ofChar (Nat.digitChar d) := by decide
    exact other d small same
  have cut : Text.IsRun (· ≠ CodePoint.ofChar '\x7d') (Text.Numeral.hex point.value).toCodeText
      (.ofChar '\x7d' :: rest) := Text.isRun_ne closed (by simp)
  have braces : readBraces? ('\x7b' :: ((Text.Numeral.hex point.value).toCodeText ++
      .ofChar '\x7d' :: rest)) =
      some (point, (Text.Numeral.hex point.value).toCodeText.length + 2) := by
    rw [readBraces?, if_pos rfl]
    simp only [cut.takeWhile_eq, Text.mapM_toChar?_toCodeText, Option.bind_eq_bind,
      Option.bind_some, Text.Numeral.ofHex_hex, CodePoint.ofNat?_value]
    rfl
  rw [readForm?, if_neg (by decide), if_pos rfl, if_pos rfl, braces]
  rfl

private theorem readForm?_plain {point : CodePoint} (quote : point ≠ '"') (backslash : point ≠ '\\')
    (rest : CodeText) : readForm? point rest = some (point, 0) := by
  simp only [readForm?, if_neg quote, if_neg backslash]

section

variable [Unicode.Database]

theorem escape_cases (point : CodePoint) :
    (∃ letter, (point, letter) ∈ escapes ∧ escape point = [.ofChar '\\', .ofChar letter]) ∨
      escape point = .ofChar '\\' :: .ofChar 'u' :: .ofChar '\x7b' ::
        ((Text.Numeral.hex point.value).toCodeText ++ [.ofChar '\x7d']) ∨
      point ≠ '"' ∧ point ≠ '\\' ∧ isUnprintable point = false ∧ escape point = [point] := by
  cases found : escapes.lookup point with
  | some letter =>
    obtain ⟨before, after, split, -⟩ := List.lookup_eq_some_iff.mp found
    exact Or.inl ⟨letter, by simp [split], by simp only [escape, found]⟩
  | none =>
    have unlisted := List.lookup_eq_none_iff.mp found
    cases hidden : isUnprintable point with
    | true => exact Or.inr (Or.inl (by simp only [escape, found, hidden, if_true]))
    | false =>
      have quote := unlisted ('"', '"') (by decide)
      have backslash := unlisted ('\\', '\\') (by decide)
      simp only [bne_iff_ne] at quote backslash
      exact Or.inr (Or.inr ⟨quote, backslash, rfl, by simp [escape, found, hidden]⟩)

theorem unquoteTail_escape (point : CodePoint) (rest : CodeText) :
    unquoteTail (escape point ++ rest) = (point :: ·) <$> unquoteTail rest := by
  rcases escape_cases point with ⟨letter, listed, form⟩ | form | ⟨quote, backslash, -, form⟩
  · rw [form]
    exact unquoteTail_cons (readForm?_letter listed rest)
  · rw [form, List.cons_append, List.cons_append, List.cons_append, List.append_assoc,
      List.singleton_append, unquoteTail_cons (readForm?_braces point rest)]
    simp
  · rw [form]
    exact unquoteTail_cons (readForm?_plain quote backslash rest)

theorem unquote_quote (text : CodeText) : unquote (quote text) = some text := by
  change unquoteTail (text.flatMap escape ++ [.ofChar '"']) = some text
  induction text with
  | nil => simp [unquoteTail]
  | cons point text ih =>
    rw [List.flatMap_cons, List.append_assoc, unquoteTail_escape, ih]
    rfl

theorem quote_inj {first second : CodeText} : quote first = quote second ↔ first = second := by
  refine ⟨fun same => ?_, fun same => same ▸ rfl⟩
  have read := congrArg unquote same
  rw [unquote_quote, unquote_quote] at read
  exact Option.some.inj read

private theorem isUnprintable_of_mem_escape {point sign : CodePoint}
    (member : sign ∈ escape point) : isUnprintable sign = false := by
  rcases escape_cases point with ⟨letter, listed, form⟩ | form | ⟨-, -, printable, form⟩
  · have all : ∀ entry ∈ escapes, 0x20 ≤ entry.2.toNat ∧ entry.2.toNat < 0x7F := by decide
    simp only [form, List.mem_cons, List.not_mem_nil, or_false] at member
    rcases member with rfl | rfl
    · exact Unicode.isUnprintable_of_visible (by decide) (by decide)
    · exact Unicode.isUnprintable_of_visible (all _ listed).1 (all _ listed).2
  · have parts : (∃ c ∈ ['\\', 'u', '\x7b', '\x7d'], sign = .ofChar c) ∨
        sign ∈ (Text.Numeral.hex point.value).toCodeText := by
      simp only [form, List.mem_cons, List.mem_append, List.not_mem_nil, or_false] at member ⊢
      grind
    rcases parts with ⟨c, frame, rfl⟩ | digit
    · have all : ['\\', 'u', '\x7b', '\x7d'].all (fun c => 0x20 ≤ c.toNat ∧ c.toNat < 0x7F) =
          true := by decide
      obtain ⟨low, high⟩ := of_decide_eq_true (List.all_eq_true.mp all c frame)
      exact Unicode.isUnprintable_of_visible low high
    · obtain ⟨d, small, rfl⟩ := Text.exists_digit_of_mem_toCodeText_hex digit
      have all : ∀ d < 16, 0x20 ≤ (Nat.digitChar d).toNat ∧ (Nat.digitChar d).toNat < 0x7F := by
        decide
      exact Unicode.isUnprintable_of_visible (all d small).1 (all d small).2
  · rw [form, List.mem_singleton] at member
    exact member ▸ printable

theorem isUnprintable_of_mem_quote {text : CodeText} {point : CodePoint}
    (member : point ∈ quote text) : isUnprintable point = false := by
  have mark : isUnprintable '"' = false :=
    Unicode.isUnprintable_of_visible (by decide) (by decide)
  simp only [quote, List.cons_append, List.mem_cons, List.mem_append, List.mem_flatMap,
    List.not_mem_nil, or_false] at member
  rcases member with rfl | ⟨inside, -, written⟩ | rfl
  · exact mark
  · exact isUnprintable_of_mem_escape written
  · exact mark

theorem isSurrogate_of_mem_quote {text : CodeText} {point : CodePoint}
    (member : point ∈ quote text) : point.isSurrogate = false := by
  have seen := isUnprintable_of_mem_quote member
  refine Bool.eq_false_iff.mpr fun half => ?_
  rw [Unicode.isUnprintable_of_isSurrogate half] at seen
  cases seen

end

end CodeText

namespace Text.Quoted

variable [Unicode.Database]

/-- A quotation holds no surrogate, so that nothing is lost of it among characters. -/
theorem toCodeText_encode (text : Text) : toCodeText (encode text) = (toCodeText text).quote :=
  toCodeText_filterMap fun _ => CodeText.isSurrogate_of_mem_quote

theorem encode_inj {first second : Text} : encode first = encode second ↔ first = second := by
  rw [← toCodeText_inj, toCodeText_encode, toCodeText_encode, CodeText.quote_inj, toCodeText_inj]

theorem isUnprintable_of_mem_encode {text : Text} {c : Char} (member : c ∈ encode text) :
    isUnprintable c = false := by
  have written : CodePoint.ofChar c ∈ toCodeText (encode text) := List.mem_map_of_mem member
  rw [toCodeText_encode] at written
  exact CodeText.isUnprintable_of_mem_quote written

end Text.Quoted

end LineMark
