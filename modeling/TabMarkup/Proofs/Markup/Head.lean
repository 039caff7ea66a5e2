import TabMarkup.Proofs.Markup.Properties
import TabMarkup.Proofs.Text.Trim
import TabMarkup.Proofs.Reading.Mark

/-!
Heads of tags that are written and read. A head is read back as it was written, but for blanks
at the end of a name that nothing follows and at the start of the first key.
-/
namespace TabMarkup

def IsTagName (name : String) : Prop :=
  name ≠ "" ∧ ∀ c ∈ name.toList, Head.isNameChar c = true ∧ c ≠ ' '

theorem Head.isName_iff {cs : List Char} :
    isName cs = true ↔ cs ≠ [] ∧ ∀ c ∈ cs, isNameChar c = true := by
  simp only [isName, Bool.and_eq_true, Bool.not_eq_true', List.isEmpty_eq_false_iff,
    List.all_eq_true, ne_eq]

theorem IsTagName.isName {name : String} (h : IsTagName name) : Head.isName name.toList = true :=
  Head.isName_iff.2 ⟨fun e => h.1 (String.toList_eq_nil_iff.1 e), fun c hc => (h.2 c hc).1⟩

theorem isTagName_of_solid {name : String} (named : Head.isName name.toList = true)
    (solid : Text.Solid name.toList) : IsTagName name := by
  obtain ⟨ne, chars⟩ := Head.isName_iff.1 named
  refine ⟨fun e => ne (String.toList_eq_nil_iff.2 e), fun c hc => ⟨chars c hc, ?_⟩⟩
  rintro rfl
  cases solid _ hc

namespace Head

def ending (void : Bool) : List Char := if void then [' ', '/', '>'] else ['>']

def write (void : Bool) (name : String) (pairs : List (String × String)) : List Char :=
  '<' :: (name.toList ++ writePairs pairs ++ ending void)

/-! ### What was read -/

theorem inner?_eq_some {void : Bool} {markup inner : List Char} :
    inner? void markup = some inner ↔
      ∃ cs, markup = '<' :: (cs ++ (if void then ['/', '>'] else ['>'])) ∧ Text.trimEnd cs = inner := by
  simp only [inner?, Option.bind_eq_bind, Option.bind_eq_some_iff, Text.stripStart?_eq_some_iff,
    Text.stripEnd?_eq_some_iff, Option.pure_def, Option.some.injEq]
  constructor
  · rintro ⟨rest, rfl, cs, rfl, h⟩
    exact ⟨cs, rfl, h⟩
  · rintro ⟨cs, rfl, h⟩
    exact ⟨_, rfl, cs, rfl, h⟩

theorem parse_eq_ok {void : Bool} {markup : List Char} {head : Head} :
    parse void markup = .ok head ↔
      ∃ inner, inner? void markup = some inner ∧ isName (inner.takeWhile (· != ' ')) = true ∧
        head.name = String.ofList (inner.takeWhile (· != ' ')) ∧
        head.properties = Text.trim (inner.drop ((inner.takeWhile (· != ' ')).length + 1)) := by
  unfold parse
  cases inner? void markup with
  | none => simp [malformed, fail]
  | some inner =>
    by_cases h : isName (inner.takeWhile (· != ' ')) = true
    · simp only [h, if_true, Except.ok.injEq, Option.some.injEq, exists_eq_left', true_and]
      cases head
      simp only [Head.mk.injEq]
      exact ⟨fun e => ⟨e.1.symm, e.2.symm⟩, fun e => ⟨e.1.symm, e.2.symm⟩⟩
    · simp [h, malformed, fail]

theorem isTagName_of_parse {void : Bool} {markup : List Char} {head : Head}
    (h : parse void markup = .ok head) : IsTagName head.name := by
  obtain ⟨inner, -, named, hn, -⟩ := parse_eq_ok.1 h
  obtain ⟨ne, chars⟩ := isName_iff.1 named
  refine ⟨?_, ?_⟩
  · rw [hn]
    exact fun e => ne (String.ofList_eq_empty_iff.1 e)
  · rw [hn, String.toList_ofList]
    intro c hc
    have := List.all_eq_true.1 List.all_takeWhile c hc
    exact ⟨chars c hc, by simpa using this⟩

theorem eq_of_parse {void : Bool} {markup : List Char} {head : Head}
    (h : parse void markup = .ok head) : ∃ rest, markup = '<' :: (head.name.toList ++ rest) := by
  obtain ⟨inner, hi, -, hn, -⟩ := parse_eq_ok.1 h
  obtain ⟨cs, rfl, rfl⟩ := inner?_eq_some.1 hi
  obtain ⟨bs, hcs, -⟩ := Text.exists_trimEnd_append cs
  have split := List.takeWhile_append_dropWhile (p := (· != ' ')) (l := Text.trimEnd cs)
  rw [hn, String.toList_ofList]
  refine ⟨(Text.trimEnd cs).dropWhile (· != ' ') ++ bs ++ if void then ['/', '>'] else ['>'], ?_⟩
  calc '<' :: (cs ++ if void then ['/', '>'] else ['>'])
      = '<' :: (Text.trimEnd cs ++ bs ++ if void then ['/', '>'] else ['>']) := by rw [← hcs]
    _ = _ := by conv => lhs; rw [← split]
                simp only [List.append_assoc]

theorem mem_of_parse {void : Bool} {markup : List Char} {head : Head}
    (h : parse void markup = .ok head) {c : Char}
    (hc : c ∈ head.name.toList ∨ c ∈ head.properties) : c ∈ markup := by
  rcases hc with hc | hc
  · obtain ⟨rest, rfl⟩ := eq_of_parse h
    simp [hc]
  · obtain ⟨inner, hi, -, -, hp⟩ := parse_eq_ok.1 h
    obtain ⟨cs, rfl, rfl⟩ := inner?_eq_some.1 hi
    rw [hp] at hc
    have := Text.mem_of_mem_trimEnd (List.drop_subset _ _ (Text.mem_of_mem_trim hc))
    simp [this]

/-! ### What was written -/

/-- A name as it is read back: blanks at its end are lost where nothing follows it. -/
def respellName (name : String) (pairs : List (String × String)) : String :=
  if pairs = [] then String.ofList (Text.trimEnd name.toList) else name

/-- Pairs as they are read back: blanks at the start of the first key are lost. -/
def respellPairs : List (String × String) → List (String × String)
  | [] => []
  | p :: ps => (String.ofList (Text.trimStart p.1.toList), p.2) :: ps

theorem writePair_last (p : String × String) : ∃ cs, writePair p = cs ++ ['"'] :=
  ⟨p.1.toList ++ '=' :: '"' :: p.2.toList, by simp [writePair]⟩

theorem writePairs_last {pairs : List (String × String)} (h : pairs ≠ []) :
    ∃ cs, writePairs pairs = cs ++ ['"'] := by
  rcases List.eq_nil_or_concat pairs with rfl | ⟨ps, p, rfl⟩
  · exact absurd rfl h
  · obtain ⟨cs, hcs⟩ := writePair_last p
    exact ⟨writePairs ps ++ ' ' :: cs, by simp [writePairs, hcs]⟩

theorem inner?_write (void : Bool) (name : String) (pairs : List (String × String)) :
    inner? void (write void name pairs) = some (Text.trimEnd (name.toList ++ writePairs pairs)) := by
  rw [inner?_eq_some]
  cases void with
  | false => exact ⟨_, rfl, rfl⟩
  | true =>
    refine ⟨name.toList ++ writePairs pairs ++ [' '], by simp [write, ending], ?_⟩
    exact Text.trimEnd_append_blank _ rfl

theorem takeWhile_name {name : String} (h : IsTagName name) (rest : List Char) :
    (name.toList ++ ' ' :: rest).takeWhile (· != ' ') = name.toList := by
  rw [List.takeWhile_append_of_pos fun c hc => by simpa using (h.2 c hc).2]
  simp

theorem parse_write_of_pairs (void : Bool) {name : String} (h : IsTagName name)
    (p : String × String) (ps : List (String × String)) :
    parse void (write void name (p :: ps)) =
      .ok ⟨name, Text.trimStart (writePair p ++ writePairs ps)⟩ := by
  obtain ⟨cs, hcs⟩ : ∃ cs, writePair p ++ writePairs ps = cs ++ ['"'] := by
    obtain ⟨cs, hcs⟩ := writePairs_last (List.cons_ne_nil p ps)
    cases cs with
    | nil => simp at hcs
    | cons c cs => exact ⟨cs, (List.cons.inj hcs).2⟩
  have inner : Text.trimEnd (name.toList ++ writePairs (p :: ps)) =
      name.toList ++ ' ' :: (writePair p ++ writePairs ps) := by
    rw [writePairs_cons, hcs]
    have := Text.trimEnd_append_solid (name.toList ++ ' ' :: cs) (c := '"') rfl
    simpa using this
  rw [parse_eq_ok]
  refine ⟨_, inner?_write void name _, ?_⟩
  rw [inner, takeWhile_name h]
  refine ⟨h.isName, by simp, ?_⟩
  rw [List.drop_append, List.drop_of_length_le (by omega), Nat.add_sub_cancel_left]
  simp only [List.nil_append, List.drop_succ_cons, List.drop_zero]
  rw [hcs, Text.trim_eq_trimStart rfl]

theorem takeWhile_all {cs : List Char} (h : ∀ c ∈ cs, c ≠ ' ') : cs.takeWhile (· != ' ') = cs := by
  have all : (cs ++ []).takeWhile (· != ' ') = cs ++ [].takeWhile (· != ' ') :=
    List.takeWhile_append_of_pos (by simpa using h)
  simpa using all

/-- With nothing behind it a name loses the blanks at its end. -/
theorem parse_write_bare (void : Bool) {name : String} (h : IsTagName name) :
    parse void (write void name []) =
      if Text.trimEnd name.toList = [] then malformed (write void name [])
      else .ok ⟨String.ofList (Text.trimEnd name.toList), []⟩ := by
  have chars : ∀ c ∈ Text.trimEnd name.toList, isNameChar c = true ∧ c ≠ ' ' :=
    fun c hc => h.2 c (Text.mem_of_mem_trimEnd hc)
  have whole := takeWhile_all fun c hc => (chars c hc).2
  have inner := inner?_write void name []
  rw [writePairs_nil, List.append_nil] at inner
  by_cases none : Text.trimEnd name.toList = []
  · have nameless : isName [] = false := rfl
    simp [parse, inner, none, nameless]
  · have named : isName (Text.trimEnd name.toList) = true :=
      isName_iff.2 ⟨none, fun c hc => (chars c hc).1⟩
    rw [if_neg none, parse_eq_ok]
    refine ⟨_, inner, ?_⟩
    rw [whole]
    refine ⟨named, rfl, ?_⟩
    rw [List.drop_of_length_le (by omega)]
    rfl

theorem closingName_eq_ok {markup : List Char} {name : String} :
    closingName markup = .ok name ↔
      markup = '<' :: '/' :: (name.toList ++ ['>']) ∧ isName name.toList = true ∧
        Text.Solid name.toList := by
  have frame (cs : List Char) :
      ('<' :: '/' :: (cs ++ ['>'])).any Text.isBlank = cs.any Text.isBlank := by
    have a : Text.isBlank '<' = false := rfl
    have b : Text.isBlank '/' = false := rfl
    have c : Text.isBlank '>' = false := rfl
    simp [a, b, c]
  unfold closingName
  constructor
  · intro h
    split at h
    · cases h
    · rename_i solid
      split at h
      · cases h
      · rename_i cs hcs
        simp only [Option.bind_eq_some_iff, Text.stripStart?_eq_some_iff,
          Text.stripEnd?_eq_some_iff] at hcs
        obtain ⟨_, rfl, rfl⟩ := hcs
        split at h
        · rename_i named
          cases h
          rw [String.toList_ofList]
          refine ⟨rfl, named, ?_⟩
          have := frame cs
          simp only [List.cons_append, List.nil_append] at solid
          rw [this] at solid
          simpa [Text.Solid] using solid
        · cases h
  · rintro ⟨rfl, named, solid⟩
    have none : name.toList.any Text.isBlank = false := by
      rw [List.any_eq_false]
      exact fun c hc => by simp [solid c hc]
    have inner : (Text.stripStart? ['<', '/'] ('<' :: '/' :: (name.toList ++ ['>']))).bind
        (Text.stripEnd? ['>']) = some name.toList := by
      simp only [Option.bind_eq_some_iff, Text.stripStart?_eq_some_iff, Text.stripEnd?_eq_some_iff]
      exact ⟨_, rfl, rfl⟩
    simp only [frame, none, Bool.false_eq_true, if_false, inner, named, if_true]
    rw [String.ofList_toList]

end Head

/-! ### Heads with their properties -/

theorem isKey_trimStart {key : String} (hk : IsKey key)
    (ne : Text.trimStart key.toList ≠ []) : IsKey (String.ofList (Text.trimStart key.toList)) := by
  refine ⟨fun e => ne (String.ofList_eq_empty_iff.1 e), ?_⟩
  rw [String.toList_ofList]
  exact fun c hc => hk.2 c (Text.mem_of_mem_trimStart hc)

namespace Mark

theorem readHead_write_bare {void : Bool} {name : String} (hn : IsTagName name)
    {r : String × List (String × String)} :
    readHead void (Head.write void name []) = .ok r ↔
      Text.trimEnd name.toList ≠ [] ∧ r = (String.ofList (Text.trimEnd name.toList), []) := by
  have parsed := Head.parse_write_bare void hn
  have empty : parseProperties [] = .ok [] := rfl
  by_cases none : Text.trimEnd name.toList = []
  · simp [readHead, parsed, none, Head.malformed, fail]
  · rw [if_neg none] at parsed
    simp [readHead, parsed, empty, none, eq_comm]

theorem readHead_write_pairs {void : Bool} {name : String} {p : String × String}
    {ps : List (String × String)} (hn : IsTagName name) (hp : IsKey p.1 ∧ IsValue p.2)
    (hps : ∀ q ∈ ps, IsKey q.1 ∧ IsValue q.2) {r : String × List (String × String)} :
    readHead void (Head.write void name (p :: ps)) = .ok r ↔
      Text.trimStart p.1.toList ≠ [] ∧ r = (name, Head.respellPairs (p :: ps)) := by
  have parsed := Head.parse_write_of_pairs void hn p ps
  have line : Text.trimStart (writePair p ++ writePairs ps) =
      writePair (String.ofList (Text.trimStart p.1.toList), p.2) ++ writePairs ps := by
    have := Text.trimStart_append_solid p.1.toList ('"' :: (p.2.toList ++ ['"']) ++ writePairs ps)
      (c := '=') rfl
    simpa [writePair] using this
  by_cases none : Text.trimStart p.1.toList = []
  · have keyless := parseProperties_keyless (Text.trimStart (writePair p ++ writePairs ps))
      (by rw [line, none]; rfl) hp.2 hps
    simp [readHead, parsed, keyless, none]
  · have legible : ∀ q ∈ (String.ofList (Text.trimStart p.1.toList), p.2) :: ps,
        IsKey q.1 ∧ IsValue q.2 := by
      intro q hq
      rcases List.mem_cons.1 hq with rfl | hq
      · exact ⟨isKey_trimStart hp.1 none, hp.2⟩
      · exact hps q hq
    have read := parseProperties_write legible
    rw [← line] at read
    simp [readHead, parsed, read, none, Head.respellPairs, eq_comm]

/-- A head that was written is read as it is respelled, if a name and a key are left. -/
theorem readHead_write {void : Bool} {name : String} {pairs : List (String × String)}
    (hn : IsTagName name) (hp : ∀ p ∈ pairs, IsKey p.1 ∧ IsValue p.2)
    {r : String × List (String × String)} :
    readHead void (Head.write void name pairs) = .ok r ↔
      Head.respellName name pairs ≠ "" ∧ (∀ p ∈ Head.respellPairs pairs, p.1 ≠ "") ∧
        r = (Head.respellName name pairs, Head.respellPairs pairs) := by
  cases pairs with
  | nil =>
    rw [readHead_write_bare hn]
    simp [Head.respellName, Head.respellPairs]
  | cons p ps =>
    have hps : ∀ q ∈ ps, IsKey q.1 ∧ IsValue q.2 := fun q hq => hp q (by simp [hq])
    have keys : ∀ q ∈ ps, q.1 ≠ "" := fun q hq => (hps q hq).1.1
    rw [readHead_write_pairs hn (hp p (by simp)) hps]
    simp only [Head.respellName, reduceCtorEq, if_false, Head.respellPairs, List.forall_mem_cons]
    constructor
    · rintro ⟨key, rfl⟩
      exact ⟨hn.1, ⟨by simpa using key, keys⟩, rfl⟩
    · rintro ⟨-, ⟨key, -⟩, rfl⟩
      exact ⟨by simpa using key, rfl⟩

end Mark
end TabMarkup
