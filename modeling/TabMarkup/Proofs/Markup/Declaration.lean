import TabMarkup.Markup.Declaration
import TabMarkup.Document.Basic
import TabMarkup.Proofs.Markup.Line

/-!
Declarations that are written and read. A stylesheet is one word that is no keyword, and a
version is anything that fits between quotes; both are read back as they were written. However a
declaration was spelled, the one written form of it says the same.
-/
namespace TabMarkup

/-- A stylesheet can be declared: it is one word and none of the keywords. -/
def IsStylesheet (s : String) : Prop :=
  s ≠ "" ∧ Text.Solid s.toList ∧ Declaration.isDoctypeWord s.toList = false ∧
    Declaration.isFormatWord s.toList = false

instance (s : String) : Decidable (IsStylesheet s) := inferInstanceAs (Decidable (_ ∧ _))

namespace Declaration

theorem inner?_eq_some {markup inner : List Char} :
    inner? markup = some inner ↔ ∃ cs, markup = '<' :: '!' :: (cs ++ ['>']) ∧ Text.trim cs = inner := by
  simp only [inner?, Option.map_eq_some_iff, Option.bind_eq_some_iff, Text.stripStart?_eq_some_iff,
    Text.stripEnd?_eq_some_iff]
  constructor
  · rintro ⟨cs, ⟨_, rfl, rfl⟩, h⟩
    exact ⟨cs, rfl, h⟩
  · rintro ⟨cs, rfl, h⟩
    exact ⟨cs, ⟨_, rfl, rfl⟩, h⟩

/-! ### What was written -/

def doctypeText (stylesheet : String) : List Char :=
  '<' :: '!' :: (['D', 'O', 'C', 'T', 'Y', 'P', 'E', ' ', 's', 'k', 'd', ' '] ++ stylesheet.toList ++
    ['>'])

def versionText (number : String) : List Char :=
  '<' :: '!' :: (['S', 'K', 'D', ' ', 'v', 'e', 'r', 's', 'i', 'o', 'n', '=', '"'] ++ number.toList ++
    ['"', '>'])

theorem toList_renderDoctype (d : Doctype) : d.render.toList = doctypeText d.stylesheet := by
  change ("<!DOCTYPE skd " ++ d.stylesheet ++ ">").toList = _
  simp [doctypeText]

theorem toList_renderVersion (v : Version) : v.render.toList = versionText v.number := by
  change ("<!SKD version=\"" ++ v.number ++ "\">").toList = _
  simp [versionText]

theorem words_doctype {s : String} (h : IsStylesheet s) :
    Text.words (['D', 'O', 'C', 'T', 'Y', 'P', 'E', ' ', 's', 'k', 'd', ' '] ++ s.toList) =
      [['D', 'O', 'C', 'T', 'Y', 'P', 'E'], ['s', 'k', 'd'], s.toList] := by
  have ne : s.toList ≠ [] := fun e => h.1 (String.toList_eq_nil_iff.1 e)
  have first := Text.words_append_blank (w := ['D', 'O', 'C', 'T', 'Y', 'P', 'E'])
    (Text.solid_of_all rfl) (by simp) (c := ' ') rfl (['s', 'k', 'd', ' '] ++ s.toList)
  have second := Text.words_append_blank (w := ['s', 'k', 'd'])
    (Text.solid_of_all rfl) (by simp) (c := ' ') rfl s.toList
  rw [Text.words_solid h.2.1 ne] at second
  calc _ = _ := first
    _ = _ := congrArg _ second

theorem parse_doctypeText {s : String} (h : IsStylesheet s) :
    parse (doctypeText s) = .ok (.doctype s) := by
  have ne : s.toList ≠ [] := fun e => h.1 (String.toList_eq_nil_iff.1 e)
  have inner : inner? (doctypeText s) =
      some (['D', 'O', 'C', 'T', 'Y', 'P', 'E', ' ', 's', 'k', 'd', ' '] ++ s.toList) := by
    rw [inner?_eq_some]
    refine ⟨_, rfl, ?_⟩
    obtain ⟨ds, d, hd⟩ : ∃ ds d, s.toList = ds ++ [d] :=
      ⟨_, _, (List.dropLast_concat_getLast ne).symm⟩
    have solid : Text.isBlank d = false := h.2.1 d (by simp [hd])
    rw [hd, ← List.append_assoc, Text.trim_eq_trimStart solid]
    exact Text.trimStart_cons_solid rfl
  have words := words_doctype h
  have name : isDoctypeWord ['D', 'O', 'C', 'T', 'Y', 'P', 'E'] = true := by decide
  have format : isFormatWord ['s', 'k', 'd'] = true := by decide
  have other : isDoctypeWord ['s', 'k', 'd'] = false := by decide
  simp only [parse, inner, words, List.headD_cons, name, if_true, parseDoctype, List.length_cons,
    List.length_nil, List.filter_cons, format, other, h.2.2.1, h.2.2.2]
  simp

theorem tokenize_cons_space {cs : List Char} {ts : List Token} (h : Token.tokenize cs = .ok ts) :
    Token.tokenize (' ' :: cs) = .ok ts := by
  have space : Token.State.step {} ' ' = {} := rfl
  simp only [Token.tokenize, List.foldl_cons, space] at h ⊢
  split at h
  · cases h
  · rename_i out
    simpa [out] using h

theorem parse_versionText {number : String} (h : IsValue number) :
    parse (versionText number) = .ok (.version number) := by
  have inner : inner? (versionText number) =
      some (['S', 'K', 'D'] ++ writePairs [("version", number)]) := by
    rw [inner?_eq_some]
    refine ⟨['S', 'K', 'D'] ++ writePairs [("version", number)], ?_, ?_⟩
    · simp [versionText, writePair]
    · have last : ['S', 'K', 'D'] ++ writePairs [("version", number)] =
          ['S', 'K', 'D', ' ', 'v', 'e', 'r', 's', 'i', 'o', 'n', '=', '"'] ++ number.toList ++
            ['"'] := by
        simp [writePair]
      rw [last, Text.trim_eq_trimStart rfl]
      exact Text.trimStart_cons_solid rfl
  have words := Text.words_append_blank (w := ['S', 'K', 'D']) (Text.solid_of_all rfl) (by simp)
    (c := ' ') rfl (writePair ("version", number))
  have name : isDoctypeWord ['S', 'K', 'D'] = false := by decide
  have format : isFormatWord ['S', 'K', 'D'] = true := by decide
  have chars : "version".toList.all (!Token.isSeparator ·) = true := rfl
  have key : IsKey "version" := ⟨by decide, fun c hc => by simpa using List.all_eq_true.1 chars c hc⟩
  have legible : ∀ p ∈ [("version", number)], IsKey p.1 ∧ IsValue p.2 := by simpa using ⟨key, h⟩
  have tokens := tokenize_cons_space (Token.tokenize_write legible)
  have left : (Token.ofPairs [("version", number)]).filter
      (fun t => t.quoted || !(isVersionWord t.text.toList || isFormatWord t.text.toList)) =
      [⟨number, true⟩] := by
    have keyword : isVersionWord "version".toList = true := by decide
    simp only [Token.ofPairs_cons, Token.ofPairs_nil, List.filter_cons, List.filter_nil, keyword]
    rfl
  have text : writePairs [("version", number)] = ' ' :: writePair ("version", number) := by simp
  rw [writePairs_nil, List.append_nil] at tokens
  rw [text] at inner
  simp only [parse, inner, words, List.headD_cons, name, format, if_true, Bool.false_eq_true, if_false,
    List.drop_left, parseVersion, tokens, left]

theorem kindOf_doctypeText (s : String) :
    Line.kindOf (doctypeText s) = .declaration (doctypeText s) := by
  have trimmed : Text.trimEnd (doctypeText s) = doctypeText s :=
    Text.trimEnd_append_solid ('<' :: '!' :: (_ ++ s.toList)) rfl
  rw [Line.kindOf, trimmed]
  rfl

theorem kindOf_versionText (s : String) :
    Line.kindOf (versionText s) = .declaration (versionText s) := by
  have trimmed : Text.trimEnd (versionText s) = versionText s := by
    have := Text.trimEnd_append_solid ('<' :: '!' :: (['S', 'K', 'D', ' ', 'v', 'e', 'r', 's', 'i', 'o',
      'n', '=', '"'] ++ s.toList ++ ['"'])) (c := '>') rfl
    simpa [versionText] using this
  rw [Line.kindOf, trimmed]
  rfl

/-! ### What was read -/

/-- A declaration that can be written: its value stands for itself. -/
def Written : Declaration → Prop
  | doctype s => IsStylesheet s
  | version v => IsValue v

instance (d : Declaration) : Decidable d.Written :=
  match d with
  | doctype s => inferInstanceAs (Decidable (IsStylesheet s))
  | version v => inferInstanceAs (Decidable (IsValue v))

theorem written_of_parseDoctype {inner : List Char} {d : Declaration} (h : parseDoctype inner = .ok d) :
    d.Written ∧ ∀ c ∈ d.value.toList, c ∈ inner := by
  simp only [parseDoctype] at h
  split at h
  · cases h
  · split at h
    · -- the one word that is left
      rename_i stylesheet only
      cases h
      have mem : stylesheet ∈ [stylesheet] := by simp
      rw [← only, List.mem_filter] at mem
      obtain ⟨word, other⟩ := mem
      obtain ⟨ne, solid, chars⟩ := Text.mem_words word
      simp only [Bool.and_eq_true, Bool.not_eq_true'] at other
      simp only [Written, IsStylesheet, value, String.toList_ofList]
      exact ⟨⟨fun e => ne (String.ofList_eq_empty_iff.1 e), solid, other⟩, chars⟩
    · cases h

theorem written_of_parseVersion {rest : List Char} {d : Declaration} (h : parseVersion rest = .ok d) :
    d.Written ∧ ∀ c ∈ d.value.toList, c ∈ rest := by
  unfold parseVersion at h
  split at h
  · cases h
  · rename_i tokens ht
    split at h
    · -- the one token that is left
      rename_i t only
      cases h
      have mem : t ∈ [t] := by simp
      rw [← only, List.mem_filter] at mem
      have chars := Token.mem_of_tokenize ht t mem.1
      exact ⟨fun quote => (chars _ quote).2 rfl, fun c hc => (chars c hc).1⟩
    · cases h

theorem written_of_parse {markup : List Char} {d : Declaration} (h : parse markup = .ok d) :
    d.Written ∧ ∀ c ∈ d.value.toList, c ∈ markup := by
  unfold parse at h
  split at h
  · cases h
  · rename_i inner hi
    obtain ⟨cs, rfl, rfl⟩ := inner?_eq_some.1 hi
    have sub : ∀ c ∈ Text.trim cs, c ∈ '<' :: '!' :: (cs ++ ['>']) := fun c hc => by
      simp [Text.mem_of_mem_trim hc]
    simp only at h
    split at h
    · obtain ⟨written, chars⟩ := written_of_parseDoctype h
      exact ⟨written, fun c hc => sub c (chars c hc)⟩
    · split at h
      · obtain ⟨written, chars⟩ := written_of_parseVersion h
        exact ⟨written, fun c hc => sub c (List.drop_subset _ _ (chars c hc))⟩
      · cases h

/-! ### The one written form -/

/-- The written form of a declaration. -/
def render : Declaration → String
  | doctype s => Doctype.render ⟨s⟩
  | version v => Version.render ⟨v⟩

theorem parse_render {d : Declaration} : parse d.render.toList = .ok d ↔ d.Written := by
  constructor
  · exact fun read => (written_of_parse read).1
  · intro written
    cases d with
    | doctype s =>
      rw [render, toList_renderDoctype]
      exact parse_doctypeText written
    | version v =>
      rw [render, toList_renderVersion]
      exact parse_versionText written

/-- However a declaration was spelled, its written form says the same; and a stylesheet or a
version is read back from its written form if and only if it can be written. -/
theorem parse_canonical :
    (∀ (markup : List Char) (d : Declaration), parse markup = .ok d →
      parse d.render.toList = .ok d) ∧
    (∀ s, parse (doctype s).render.toList = .ok (doctype s) ↔ IsStylesheet s) ∧
    ∀ v, parse (version v).render.toList = .ok (version v) ↔ IsValue v := by
  refine ⟨fun markup d read => ?_, fun s => parse_render, fun v => parse_render⟩
  exact parse_render.2 (written_of_parse read).1

/-- Keywords in other letters and places, between other blanks, or for a version. -/
theorem parse_canonical_spellings :
    parse "<!\u3000dOcType\t>x> Skd\u00a0>".toList = .ok (doctype ">x>") ∧
    parse (doctype ">x>").render.toList = .ok (doctype ">x>") ∧
    parse "<!sKD skd=\"Version\" >".toList = .ok (version "Version") ∧
    parse (version "Version").render.toList = .ok (version "Version") ∧
    IsStylesheet "\"=/" ∧ parse (doctype "\"=/").render.toList = .ok (doctype "\"=/") ∧
    IsValue "" ∧ parse (version "").render.toList = .ok (version "") := by
  have spelled : parse "<!\u3000dOcType\t>x> Skd\u00a0>".toList = .ok (doctype ">x>") := by rfl
  have quoted : parse "<!sKD skd=\"Version\" >".toList = .ok (version "Version") := by rfl
  have sheet : (doctype "\"=/").Written := by decide
  have number : (version "").Written := by decide
  exact ⟨spelled, parse_canonical.1 _ _ spelled, quoted, parse_canonical.1 _ _ quoted, sheet,
    (parse_canonical.2.1 _).2 sheet, number, (parse_canonical.2.2 _).2 number⟩

theorem legacyVersion_eq_ok {c : Config} {markup : List Char} {number : String}
    (h : Scan.legacyVersion c markup = .ok number) : number ∈ Scan.legacyVersions := by
  simp only [Scan.legacyVersion, bind_eq_ok] at h
  obtain ⟨_, -, d, -, h⟩ := h
  cases d with
  | doctype s => cases h
  | version v =>
    obtain ⟨_, known, h⟩ := bind_eq_ok.1 h
    cases h
    simpa [failIf_eq_ok] using known

end Declaration
end TabMarkup
