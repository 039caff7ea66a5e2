import TabMarkup.Proofs.Markup.Head
import TabMarkup.Proofs.Text.Lines

/-!
The kinds of lines that are written, and what lines of each kind look like.
-/
namespace TabMarkup.Line

theorem classify_of_dropReturn {raw body : List Char} {k : Nat} (n : Nat)
    (h : Text.dropReturn raw = List.replicate k '\t' ++ body) (ht : body.head? ≠ some '\t') :
    classify n raw = ⟨n, k, kindOf body⟩ := by
  have none : body.takeWhile (· == '\t') = [] := by
    cases body with
    | nil => rfl
    | cons c cs =>
      have hc : c ≠ '\t' := by simpa using ht
      simp [hc]
  have tabs : (List.replicate k '\t' ++ body).takeWhile (· == '\t') = List.replicate k '\t' := by
    rw [List.takeWhile_append_of_pos (by simp), none, List.append_nil]
  simp [classify, h, tabs]

/-- A line is its tabs and then its body, perhaps with a carriage return at its end. -/
theorem dropReturn_eq_of_classify (n : Nat) (raw : List Char) :
    ∃ body, Text.dropReturn raw = List.replicate (classify n raw).indent '\t' ++ body ∧
      body.head? ≠ some '\t' ∧ (classify n raw).kind = kindOf body := by
  have split := List.takeWhile_append_dropWhile (p := (· == '\t')) (l := Text.dropReturn raw)
  have tabs : (Text.dropReturn raw).takeWhile (· == '\t') =
      List.replicate ((Text.dropReturn raw).takeWhile (· == '\t')).length '\t' := by
    rw [List.eq_replicate_iff]
    exact ⟨rfl, fun c hc => by simpa using List.all_eq_true.1 List.all_takeWhile c hc⟩
  have rest : (Text.dropReturn raw).drop ((Text.dropReturn raw).takeWhile (· == '\t')).length =
      (Text.dropReturn raw).dropWhile (· == '\t') := by
    have := congrArg (List.drop ((Text.dropReturn raw).takeWhile (· == '\t')).length) split
    rw [List.drop_left] at this
    exact this.symm
  refine ⟨(Text.dropReturn raw).dropWhile (· == '\t'), ?_, ?_, ?_⟩
  · simp only [classify]
    rw [← tabs, split]
  · intro h
    have := List.head?_dropWhile_not (· == '\t') (Text.dropReturn raw)
    rw [h] at this
    simp at this
  · simp only [classify, rest]

/-! ### Kinds of what was written -/

theorem head_exists {name : String} (h : IsTagName name) :
    ∃ c cs, name.toList = c :: cs ∧ Head.isNameChar c = true ∧ c ≠ ' ' := by
  cases hn : name.toList with
  | nil => exact absurd (String.toList_eq_nil_iff.1 hn) h.1
  | cons c cs => exact ⟨c, cs, rfl, h.2 c (by simp [hn])⟩

/-- A head of this name begins like a legacy declaration. -/
def legacyName : String := "SKD"

theorem startsLegacy_write (void : Bool) {name : String} (h : IsTagName name)
    (pairs : List (String × String)) :
    startsLegacy (Head.write void name pairs) = decide (name = legacyName) := by
  have next : ∃ d ds, writePairs pairs ++ Head.ending void = d :: ds ∧
      (d == ' ' || d == '>') = true := by
    cases pairs with
    | nil => cases void <;> exact ⟨_, _, rfl, rfl⟩
    | cons p ps => exact ⟨_, _, rfl, rfl⟩
  obtain ⟨d, ds, hd, sep⟩ := next
  have text : Head.write void name pairs = '<' :: (name.toList ++ d :: ds) := by
    rw [Head.write, List.append_assoc, hd]
  have legacy : legacyName.toList = ['S', 'K', 'D'] := rfl
  unfold startsLegacy
  split
  · rename_i c cs strip
    rw [Text.stripStart?_eq_some_iff, text] at strip
    have strip : name.toList ++ d :: ds = ['S', 'K', 'D'] ++ c :: cs := (List.cons.inj strip).2
    rcases List.append_eq_append_iff.1 strip with ⟨r, hr, hs⟩ | ⟨r, hr, hs⟩
    · cases r with
      | nil =>
        have same : name = legacyName := String.toList_inj.1 (by rw [legacy, hr, List.append_nil])
        rw [List.nil_append] at hs
        obtain ⟨rfl, rfl⟩ := List.cons.inj hs
        simp [same, sep]
      | cons e es =>
        have : e = d := (List.cons.inj hs).1.symm
        subst this
        have mem : e ∈ ['S', 'K', 'D'] := by rw [hr]; simp
        have clash : ['S', 'K', 'D'].all (fun x => x != ' ' && x != '>') = true := rfl
        have := List.all_eq_true.1 clash e mem
        simp_all
    · cases r with
      | nil =>
        have same : name = legacyName := String.toList_inj.1 (by rw [legacy, hr, List.append_nil])
        rw [List.nil_append] at hs
        obtain ⟨rfl, rfl⟩ := List.cons.inj hs
        simp [same, sep]
      | cons e es =>
        have he : c = e := (List.cons.inj hs).1
        have solid := h.2 c (by rw [hr, he]; simp)
        have differ : name ≠ legacyName := by
          rintro rfl
          simp [legacy] at hr
        simp only [Head.isNameChar, Bool.and_eq_true, bne_iff_ne, ne_eq] at solid
        simp [differ, solid.1.1.1.1.1.2, solid.2]
  · rename_i other
    have differ : name ≠ legacyName := by
      rintro rfl
      exact other d ds (Text.stripStart?_eq_some_iff.2 (by rw [text, legacy]; rfl))
    simp [differ]

theorem trimEnd_write (void : Bool) (name : String) (pairs : List (String × String)) :
    Text.trimEnd (Head.write void name pairs) = Head.write void name pairs := by
  cases void with
  | false => exact Text.trimEnd_append_solid ('<' :: (name.toList ++ writePairs pairs)) rfl
  | true =>
    have last := Text.trimEnd_append_solid ('<' :: (name.toList ++ writePairs pairs ++ [' ', '/']))
      (c := '>') rfl
    simpa [Head.write, Head.ending] using last

theorem kindOf_write_legacy {void : Bool} {pairs : List (String × String)} :
    kindOf (Head.write void legacyName pairs) = .legacy (Head.write void legacyName pairs) := by
  have chars : legacyName.toList.all (fun c => Head.isNameChar c && c != ' ') = true := rfl
  have named : IsTagName legacyName :=
    ⟨by decide, fun c hc => by simpa using List.all_eq_true.1 chars c hc⟩
  have legacy := startsLegacy_write void named pairs
  simp only [decide_true] at legacy
  have declared : ['<', '!'].isPrefixOf (Head.write void legacyName pairs) = false := rfl
  simp only [kindOf, trimEnd_write, declared, legacy]
  rfl

theorem isSuffixOf_slash (cs : List Char) (h : cs.getLast? ≠ some '/') :
    ['/', '>'].isSuffixOf (cs ++ ['>']) = false := by
  rw [Bool.eq_false_iff, ne_eq, List.isSuffixOf_iff_suffix]
  rintro ⟨ds, hds⟩
  have : ds ++ ['/'] ++ ['>'] = cs ++ ['>'] := by simpa using hds
  rw [← List.append_cancel_right this] at h
  simp at h

theorem getLast?_name {name : String} (h : IsTagName name) (cs : List Char) :
    (cs ++ name.toList).getLast? ≠ some '/' := by
  intro last
  have ne : name.toList ≠ [] := fun e => h.1 (String.toList_eq_nil_iff.1 e)
  rw [List.getLast?_append, List.getLast?_eq_some_getLast ne, Option.some_or] at last
  have slash : '/' ∈ name.toList := by
    have := List.getLast_mem ne
    rwa [Option.some.inj last] at this
  have := (h.2 '/' slash).1
  simp [Head.isNameChar] at this

/-- Unless it begins like a declaration, a head is read as what it was written as. -/
theorem kindOf_write {void : Bool} {name : String} (h : IsTagName name)
    (plain : name.toList.head? ≠ some '!') (modern : name ≠ legacyName)
    (pairs : List (String × String)) :
    kindOf (Head.write void name pairs) =
      if void then .void (Head.write void name pairs) else .opening (Head.write void name pairs) := by
  have legacy := startsLegacy_write void h pairs
  simp only [modern, decide_false] at legacy
  obtain ⟨c, cs, hc, chars⟩ := head_exists h
  have first : c ≠ '!' := by simpa [hc] using plain
  simp only [Head.isNameChar, Bool.and_eq_true, bne_iff_ne, ne_eq] at chars
  have slash : c ≠ '/' := chars.1.1.2
  have text : Head.write void name pairs = '<' :: c :: (cs ++ writePairs pairs ++ Head.ending void) := by
    simp [Head.write, hc]
  have declared : ['<', '!'].isPrefixOf (Head.write void name pairs) = false := by
    simp [text, List.isPrefixOf, Ne.symm first]
  have closes : ['<', '/'].isPrefixOf (Head.write void name pairs) = false := by
    simp [text, List.isPrefixOf, Ne.symm slash]
  have opens : ['<'].isPrefixOf (Head.write void name pairs) = true := by
    simp [text, List.isPrefixOf]
  simp only [kindOf, trimEnd_write, declared, legacy, opens, closes]
  cases void with
  | true =>
    have slashed : ['/', '>'].isSuffixOf (Head.write true name pairs) = true := by
      rw [List.isSuffixOf_iff_suffix]
      exact ⟨'<' :: (name.toList ++ writePairs pairs ++ [' ']), by simp [Head.write, Head.ending]⟩
    simp [slashed]
  | false =>
    have slashed : ['/', '>'].isSuffixOf (Head.write false name pairs) = false := by
      have last : ('<' :: (name.toList ++ writePairs pairs)).getLast? ≠ some '/' := by
        cases pairs with
        | nil => simpa using getLast?_name h ['<']
        | cons p ps =>
          obtain ⟨ds, hds⟩ := Head.writePairs_last (List.cons_ne_nil p ps)
          have quote : ('<' :: (name.toList ++ ds) ++ ['"']).getLast? = some '"' :=
            List.getLast?_concat
          rw [hds, ← List.append_assoc, ← List.cons_append, quote]
          simp
      exact isSuffixOf_slash _ last
    simp [slashed]

def closingText (name : String) : List Char := '<' :: '/' :: (name.toList ++ ['>'])

theorem kindOf_closingText {name : String} (h : IsTagName name) :
    kindOf (closingText name) = .closing (closingText name) := by
  have trimmed : Text.trimEnd (closingText name) = closingText name :=
    Text.trimEnd_append_solid ('<' :: '/' :: name.toList) rfl
  have slashed : ['/', '>'].isSuffixOf (closingText name) = false :=
    isSuffixOf_slash ('<' :: '/' :: name.toList) (getLast?_name h ['<', '/'])
  have declared : ['<', '!'].isPrefixOf (closingText name) = false := rfl
  have legacy : startsLegacy (closingText name) = false := rfl
  have opens : ['<'].isPrefixOf (closingText name) = true := rfl
  have closes : ['<', '/'].isPrefixOf (closingText name) = true := rfl
  simp [kindOf, trimmed, slashed, declared, legacy, opens, closes]

theorem kindOf_content {body : List Char} (bracket : body.head? ≠ some '<')
    (solid : ∃ c ∈ body, Text.isBlank c = false) : kindOf body = .content body := by
  rcases Text.trimEnd_cases body with ⟨-, blanks⟩ | ⟨ds, c, bs, last, -, split, -⟩
  · obtain ⟨c, hc, hs⟩ := solid
    rw [blanks c hc] at hs
    cases hs
  · have first : (Text.trimEnd body).head? ≠ some '<' := by
      intro h
      rw [split, ← last] at bracket
      exact bracket (by rw [List.head?_append, h]; rfl)
    have ne : Text.trimEnd body ≠ [] := by simp [last]
    cases ht : Text.trimEnd body with
    | nil => exact absurd ht ne
    | cons d es =>
      have hd : '<' ≠ d := by simpa [ht, eq_comm] using first
      have legacy : startsLegacy (d :: es) = false := by
        simp [startsLegacy, Text.stripStart?, hd]
      simp [kindOf, ht, List.isPrefixOf, hd, legacy]

/-! ### What lines of a kind hold -/

theorem eq_of_kindOf_head {body markup : List Char}
    (h : kindOf body = .void markup ∨ kindOf body = .opening markup) :
    markup = Text.trimEnd body ∧ ¬ ['<', '!'] <+: markup := by
  simp only [kindOf] at h
  split at h
  · simp at h
  · rename_i declared
    rw [List.isPrefixOf_iff_prefix] at declared
    split at h
    · simp at h
    · split at h
      · split at h
        · simp only [Kind.void.injEq, reduceCtorEq, or_false] at h
          exact h ▸ ⟨rfl, declared⟩
        · split at h
          · simp at h
          · simp only [reduceCtorEq, Kind.opening.injEq, false_or] at h
            exact h ▸ ⟨rfl, declared⟩
      · split at h <;> simp at h

theorem eq_of_kindOf_content {body text : List Char} (h : kindOf body = .content text) :
    text = body ∧ body.head? ≠ some '<' ∧ ∃ c ∈ body, Text.isBlank c = false := by
  simp only [kindOf] at h
  split at h
  · cases h
  · split at h
    · cases h
    · split at h
      · split at h
        · cases h
        · split at h <;> cases h
      · rename_i bracket
        split at h
        · cases h
        · rename_i ne
          cases h
          rcases Text.trimEnd_cases body with ⟨none, -⟩ | ⟨ds, c, bs, last, solid, split, -⟩
          · simp [none] at ne
          · refine ⟨rfl, ?_, c, by rw [split]; simp, solid⟩
            intro head
            apply bracket
            rw [split, ← last] at head
            cases ht : Text.trimEnd body with
            | nil => simp [ht] at last
            | cons d es =>
              rw [ht] at head
              have : d = '<' := by simpa using head
              simp [this, List.isPrefixOf]

end TabMarkup.Line
