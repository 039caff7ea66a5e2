import TabMarkup.Proofs.Markup.Declaration

/-!
Which declarations of a doctype are accepted. Behind its name there are two words in either order,
the stylesheet and one that is dropped: the name of the format, as the wording of the refusal asks
for, or the name of the declaration once more.
-/
namespace TabMarkup.Declaration

/-- One of the words that are dropped wherever they stand. -/
def isKeyword (w : List Char) : Bool := isDoctypeWord w || isFormatWord w

/-- Two words in either order: a word of some kind, and a stylesheet that is no keyword. -/
def Beside (isKind : List Char → Bool) (words : List (List Char)) (stylesheet : List Char) : Prop :=
  isKeyword stylesheet = false ∧
    ∃ w, isKind w = true ∧ (words = [w, stylesheet] ∨ words = [stylesheet, w])

theorem not_doctype_of_format {w : List Char} (h : isFormatWord w = true) :
    isDoctypeWord w = false := by
  simp only [isFormatWord, isDoctypeWord, Text.sameLetters, beq_iff_eq] at h ⊢
  rw [h]
  decide

theorem beside_keyword {words : List (List Char)} {s : List Char} :
    Beside isKeyword words s ↔ Beside isFormatWord words s ∨ Beside isDoctypeWord words s := by
  constructor
  · rintro ⟨other, w, keyword, two⟩
    simp only [isKeyword, Bool.or_eq_true] at keyword
    rcases keyword with doctype | format
    · exact .inr ⟨other, w, doctype, two⟩
    · exact .inl ⟨other, w, format, two⟩
  · rintro (⟨other, w, format, two⟩ | ⟨other, w, doctype, two⟩)
    · exact ⟨other, w, by simp [isKeyword, format], two⟩
    · exact ⟨other, w, by simp [isKeyword, doctype], two⟩

/-- Two words are not of both kinds, whichever of them is the stylesheet. -/
theorem Beside.exclusive {words : List (List Char)} {s t : List Char}
    (h : Beside isDoctypeWord words s) : ¬ Beside isFormatWord words t := by
  obtain ⟨-, w, doctype, two⟩ := h
  rintro ⟨other, f, format, two'⟩
  have shared : w = f ∨ w = t := by
    rcases two with rfl | rfl <;> rcases two' with e | e <;> (cases e; simp)
  rcases shared with rfl | rfl
  · rw [not_doctype_of_format format] at doctype
    cases doctype
  · simp [isKeyword, doctype] at other

/-- One of two words is left if and only if it is the stylesheet and the other one is dropped. -/
theorem filter_keywords {a b s : List Char} :
    [a, b].filter (!isKeyword ·) = [s] ↔ Beside isKeyword [a, b] s := by
  constructor
  · intro only
    cases ha : isKeyword a with
    | true =>
      cases hb : isKeyword b with
      | true => simp [ha, hb] at only
      | false =>
        obtain rfl : b = s := by simpa [ha, hb] using only
        exact ⟨hb, a, ha, .inl rfl⟩
    | false =>
      cases hb : isKeyword b with
      | true =>
        obtain rfl : a = s := by simpa [ha, hb] using only
        exact ⟨ha, b, hb, .inr rfl⟩
      | false => simp [ha, hb] at only
  · rintro ⟨other, w, keyword, two | two⟩ <;> (cases two; simp [other, keyword])

theorem Beside.unique {words : List (List Char)} {s t : List Char} (hs : Beside isKeyword words s)
    (ht : Beside isKeyword words t) : s = t := by
  obtain ⟨a, b, rfl⟩ : ∃ a b, words = [a, b] := by
    obtain ⟨-, w, -, two | two⟩ := hs <;> exact ⟨_, _, two⟩
  have only := (filter_keywords.2 hs).symm.trans (filter_keywords.2 ht)
  exact (List.cons.inj only).1

/-- The name of the declaration is counted among the three words, and dropped as a keyword. -/
theorem parseDoctype_cases {inner name : List Char} {rest : List (List Char)}
    (words : Text.words inner = name :: rest) (named : isDoctypeWord name = true) :
    (∃ s, Beside isKeyword rest s ∧ parseDoctype inner = .ok (doctype (String.ofList s))) ∨
      (∀ s, ¬ Beside isKeyword rest s) ∧
        ∃ context, parseDoctype inner = .error ((invalid "DOCTYPE").withContext context) := by
  by_cases two : rest.length = 2
  · obtain ⟨a, b, rfl⟩ : ∃ a b, rest = [a, b] := by
      match rest, two with
      | [a, b], _ => exact ⟨a, b, rfl⟩
    have left : (Text.words inner).filter (fun w => !isDoctypeWord w && !isFormatWord w) =
        [a, b].filter (!isKeyword ·) := by
      simp [words, named, isKeyword, List.filter_cons]
    have three : (Text.words inner).length = 3 := by rw [words]; rfl
    simp only [parseDoctype, three, ne_eq, not_true_eq_false, if_false, left]
    split
    · rename_i s only
      exact .inl ⟨s, filter_keywords.1 only, rfl⟩
    · rename_i several
      exact .inr ⟨fun s h => several s (filter_keywords.2 h), _, rfl⟩
  · right
    have count : (Text.words inner).length ≠ 3 := by
      rw [words, List.length_cons]
      omega
    refine ⟨?_, _, by rw [parseDoctype, if_pos count]⟩
    rintro s ⟨-, w, -, rfl | rfl⟩ <;> exact two rfl

theorem parse_of_doctypeWord {cs name : List Char} {rest : List (List Char)}
    (words : Text.words cs = name :: rest) (named : isDoctypeWord name = true) :
    parse ('<' :: '!' :: (cs ++ ['>'])) = parseDoctype (Text.trim cs) := by
  have inner := inner?_eq_some.2 ⟨cs, rfl, rfl⟩
  simp only [parse, inner, Text.words_trim, words, List.headD_cons, named, if_true]

/-- A doctype is accepted if and only if one further word is a stylesheet and the other one is the
name of the format or the name of the declaration once more; all else is refused as invalid. So
the grammar, which asks for the name of the format, is kept except beside the latter. -/
theorem parse_doctype_iff {cs name : List Char} {rest : List (List Char)}
    (words : Text.words cs = name :: rest) (named : isDoctypeWord name = true) :
    (∀ d, parse ('<' :: '!' :: (cs ++ ['>'])) = .ok d ↔ ∃ s, d = doctype (String.ofList s) ∧
      (Beside isFormatWord rest s ∨ Beside isDoctypeWord rest s)) ∧
    ((∀ d, parse ('<' :: '!' :: (cs ++ ['>'])) ≠ .ok d) → ∃ context,
      parse ('<' :: '!' :: (cs ++ ['>'])) = .error ((invalid "DOCTYPE").withContext context)) ∧
    ((∀ d, parse ('<' :: '!' :: (cs ++ ['>'])) = .ok d ↔
        ∃ s, d = doctype (String.ofList s) ∧ Beside isFormatWord rest s) ↔
      ∀ s, ¬ Beside isDoctypeWord rest s) := by
  rw [parse_of_doctypeWord words named]
  have outcome := parseDoctype_cases ((Text.words_trim cs).trans words) named
  have accepted (d : Declaration) : parseDoctype (Text.trim cs) = .ok d ↔
      ∃ s, d = doctype (String.ofList s) ∧ (Beside isFormatWord rest s ∨ Beside isDoctypeWord rest s) := by
    simp only [← beside_keyword]
    rcases outcome with ⟨s, two, parsed⟩ | ⟨none, context, refused⟩
    · rw [parsed, Except.ok.injEq]
      constructor
      · rintro rfl
        exact ⟨s, rfl, two⟩
      · rintro ⟨t, rfl, two'⟩
        rw [two.unique two']
    · rw [refused]
      simp [none]
  refine ⟨accepted, ?_, ?_⟩
  · intro none
    rcases outcome with ⟨s, -, parsed⟩ | ⟨-, refused⟩
    · exact absurd parsed (none _)
    · exact refused
  · constructor
    · intro asked s again
      obtain ⟨t, -, format⟩ := (asked _).1 ((accepted _).2 ⟨s, rfl, .inr again⟩)
      exact again.exclusive format
    · intro once d
      rw [accepted]
      simp [once]

/-- The words stand in any order, letters and blanks. -/
theorem parse_doctype_reversed :
    Text.words "\u2003doctype default\tSkd ".toList =
      ["doctype".toList, "default".toList, "Skd".toList] ∧
    isDoctypeWord "doctype".toList = true ∧
    parse "<!\u2003doctype default\tSkd >".toList = .ok (doctype "default") := by
  have words : Text.words "\u2003doctype default\tSkd ".toList =
      ["doctype".toList, "default".toList, "Skd".toList] := by rfl
  have named : isDoctypeWord "doctype".toList = true := by rfl
  have two : Beside isFormatWord ["default".toList, "Skd".toList] "default".toList :=
    ⟨by rfl, _, by rfl, .inr rfl⟩
  have markup : "<!\u2003doctype default\tSkd >".toList =
      '<' :: '!' :: ("\u2003doctype default\tSkd ".toList ++ ['>']) := by simp
  have accepted := ((parse_doctype_iff words named).1 (doctype "default")).2
    ⟨_, by rw [String.ofList_toList], .inl two⟩
  exact ⟨words, named, by rw [markup]; exact accepted⟩

/-- A doctype without the name of the format is accepted. -/
theorem parse_doctype_again :
    parse "<!DOCTYPE doctype default>".toList = .ok (doctype "default") ∧
      ∀ s, ¬ Beside isFormatWord ["doctype".toList, "default".toList] s := by
  have again : Beside isDoctypeWord ["doctype".toList, "default".toList] "default".toList :=
    ⟨by rfl, _, by rfl, .inl rfl⟩
  exact ⟨by rfl, fun s => again.exclusive⟩

end TabMarkup.Declaration
