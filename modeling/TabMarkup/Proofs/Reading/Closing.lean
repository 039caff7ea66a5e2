import TabMarkup.Proofs.Reading.Grammar

/-!
Tags that are opened and closed. The name of an opening tag may hold a blank other than a space or
a tab, that of a closing tag may hold none. So there are opening tags that nothing closes; none of
them stands in a document that is accepted, where every open tag is closed by its name.
-/
namespace TabMarkup

/-! ### Names -/

namespace Head

/-- With nothing behind it a name is read as it stands if it has no blank at its end. -/
theorem parse_bare_eq_ok {void : Bool} {name : String} :
    parse void (write void name []) = .ok ⟨name, []⟩ ↔
      IsTagName name ∧ Text.trimEnd name.toList = name.toList := by
  constructor
  · intro read
    have named : IsTagName name := isTagName_of_parse read
    rw [parse_write_bare void named] at read
    split at read
    · cases read
    · have same := congrArg Head.name (Except.ok.inj read)
      exact ⟨named, by simpa using congrArg String.toList same⟩
  · rintro ⟨named, whole⟩
    have ne : name.toList ≠ [] := fun e => named.1 (String.toList_eq_nil_iff.1 e)
    rw [parse_write_bare void named, whole, if_neg ne, String.ofList_toList]

/-- What can be closed can be opened, and what can be opened can be closed unless a blank stands
inside of its name. -/
theorem closingName_iff_parse {name : String} :
    closingName ('<' :: '/' :: (name.toList ++ ['>'])) = .ok name ↔
      parse false (write false name []) = .ok ⟨name, []⟩ ∧ Text.Solid name.toList := by
  rw [closingName_eq_ok, parse_bare_eq_ok]
  constructor
  · rintro ⟨-, named, solid⟩
    exact ⟨⟨isTagName_of_solid named solid, solid.trimEnd_eq⟩, solid⟩
  · rintro ⟨⟨named, -⟩, solid⟩
    exact ⟨rfl, named.isName, solid⟩

end Head

/-! ### Documents -/

namespace Stack
variable {s t : Stack} {ms : List (Nat × Mark)}

/-- A tag that is no longer open at the end of a run was closed in it, at its own level. -/
theorem mem_closing_of_run {front back : List String} {name : String} (h : s.run ms = some t)
    (opened : s.names = front ++ name :: back) (fewer : t.names.length ≤ back.length) :
    (back.length, .closing name) ∈ ms := by
  induction ms generalizing s front with
  | nil =>
    cases h
    simp only [opened, List.length_append, List.length_cons] at fewer
    omega
  | cons m ms ih =>
    rw [run_cons, Option.bind_eq_some_iff] at h
    obtain ⟨u, first, rest⟩ := h
    rcases step_cases first with ⟨same, -⟩ | ⟨inner, pairs, -, rfl⟩ | ⟨top, closed, rfl⟩
    · exact List.mem_cons_of_mem _ (ih rest (same.trans opened))
    · have deeper : inner :: s.names = (inner :: front) ++ name :: back := by rw [opened]; rfl
      exact List.mem_cons_of_mem _ (ih rest deeper)
    · cases front with
      | nil =>
        -- the name that is closed here is the one in question
        obtain ⟨rfl, below⟩ := List.cons.inj opened
        rw [closed, below]
        exact List.mem_cons_self
      | cons f front =>
        exact List.mem_cons_of_mem _ (ih rest (List.cons.inj opened).2)

/-- Every opening tag is closed behind it, at its level and by its name. -/
theorem closing_of_accepts {before behind : List (Nat × Mark)} {k : Nat} {name : String}
    {pairs : List (String × String)}
    (h : accepts (before ++ (k, .opening name pairs) :: behind) = true) :
    (k, .closing name) ∈ behind := by
  obtain ⟨t, run, done⟩ := (Option.any_eq_true _ _).1 h
  simp only [Stack.run, List.foldlM_append, Option.bind_eq_bind, Option.bind_eq_some_iff,
    List.foldlM_cons] at run
  obtain ⟨s, -, u, first, rest⟩ := run
  obtain ⟨none, -, -⟩ := finished_iff.1 done
  simp only [step, opening] at first
  split at first
  · rename_i level
    cases first
    rw [level]
    have opened : name :: s.names = [] ++ name :: s.names := rfl
    exact mem_closing_of_run rest opened (by simp [none])
  · cases first

end Stack

/-- An opening tag of an accepted document has a name that a closing tag can have. -/
theorem Scan.solid_of_opening {g : Scan.Setting} (hg : g.Stock) {text : String} {d : Document}
    (h : (scan g text).result = .ok d) :
    ∃ marks, Mark.readText g.config text = .ok marks ∧ ∀ k name pairs,
      (k, .opening name pairs) ∈ marks → Text.Solid name.toList := by
  obtain ⟨-, marks, read, -, accepted⟩ := accepts_of_scan hg h
  refine ⟨marks, read, fun k name pairs mem => ?_⟩
  obtain ⟨before, behind, rfl⟩ := List.append_of_mem mem
  have closed := Stack.closing_of_accepts accepted
  obtain ⟨line, -, said⟩ := Mark.exists_of_mapM read (k, .closing name) (by simp [closed])
  obtain ⟨markup, -, named⟩ := Mark.read_eq_closing.1 (Mark.readLine_eq_ok.1 said).2
  exact (Head.closingName_eq_ok.1 named).2.2

/-- A name that can be closed can be opened; one that can be opened can be closed if and only if no
blank stands in it; and no document is accepted where one with a blank is opened. -/
theorem Head.closable_iff (name : String) :
    (closingName ("</" ++ name ++ ">").toList = .ok name ↔
      parse false ("<" ++ name ++ ">").toList = .ok ⟨name, []⟩ ∧ Text.Solid name.toList) ∧
    (∀ markup properties : List Char, parse false markup = .ok ⟨name, properties⟩ →
      ((∃ closing, closingName closing = .ok name) ↔ Text.Solid name.toList)) ∧
    ∀ g : Scan.Setting, g.Stock → ∀ (text : String) (d : Document),
      (Scan.scan g text).result = .ok d → ∃ marks, Mark.readText g.config text = .ok marks ∧
        ∀ k pairs, (k, .opening name pairs) ∈ marks → Text.Solid name.toList := by
  refine ⟨?_, fun markup properties opened => ?_, fun g hg text d scanned => ?_⟩
  · have closing : ("</" ++ name ++ ">").toList = '<' :: '/' :: (name.toList ++ ['>']) := by simp
    have opening : ("<" ++ name ++ ">").toList = write false name [] := by simp [write, ending]
    rw [closing, opening]
    exact closingName_iff_parse
  · have named : IsTagName name := isTagName_of_parse opened
    constructor
    · rintro ⟨closing, closed⟩
      exact (closingName_eq_ok.1 closed).2.2
    · intro solid
      exact ⟨_, closingName_eq_ok.2 ⟨rfl, named.isName, solid⟩⟩
  · obtain ⟨marks, read, closed⟩ := Scan.solid_of_opening hg scanned
    exact ⟨marks, read, fun k pairs => closed k name pairs⟩

theorem Head.closable_item :
    closingName "</item>".toList = .ok "item" ∧
    parse false "<item k=\"v\">".toList = .ok ⟨"item", "k=\"v\"".toList⟩ ∧
    (∃ closing, closingName closing = .ok "item") ∧
    (Scan.Setting.plain {}).Stock ∧
    (∃ d, (Scan.scan (.plain {})
      "<!DOCTYPE skd a>\n<!SKD 0.2>\n<item k=\"v\">\n</item>\n").result = .ok d) ∧
    ∃ marks, Mark.readText {} "<!DOCTYPE skd a>\n<!SKD 0.2>\n<item k=\"v\">\n</item>\n" = .ok marks ∧
      ∀ k pairs, (k, .opening "item" pairs) ∈ marks → Text.Solid "item".toList := by
  have solid : Text.Solid "item".toList := by decide
  have opened : parse false "<item>".toList = .ok ⟨"item", []⟩ := by rfl
  have headed : parse false "<item k=\"v\">".toList = .ok ⟨"item", "k=\"v\"".toList⟩ := by rfl
  have stock := Scan.Setting.stock_plain {}
  obtain ⟨d, scanned⟩ : ∃ d, (Scan.scan (.plain {})
      "<!DOCTYPE skd a>\n<!SKD 0.2>\n<item k=\"v\">\n</item>\n").result = .ok d :=
    ⟨_, rfl⟩
  obtain ⟨bare, line, document⟩ := closable_iff "item"
  exact ⟨bare.2 ⟨opened, solid⟩, headed, (line _ _ headed).2 solid, stock, ⟨d, scanned⟩,
    document _ stock _ d scanned⟩

/-- A blank inside of the name: the tag can be opened and not closed. -/
theorem Head.opened_unclosed :
    parse false "<a\u00a0b>".toList = .ok ⟨"a\u00a0b", []⟩ ∧
      ∀ markup, closingName markup ≠ .ok "a\u00a0b" := by
  refine ⟨by rfl, fun markup closed => ?_⟩
  exact absurd (closingName_eq_ok.1 closed).2.2 (by decide)

end TabMarkup
