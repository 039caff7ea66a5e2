import TabMarkup.Refinement.Builtin
import TabMarkup.Proofs.Refinement.Priority
import TabMarkup.Proofs.Tree.Comparison
import TabMarkup.Proofs.Tree.Editing

/-!
What the built-in rules make of a node. What a rule takes can always be narrowed by it, and what has
been narrowed is taken by no rule, so refinement never fails and is done after one pass.
-/
namespace TabMarkup

theorem Property.narrow_eq_ok {p q : Property} :
    p.narrow = .ok q ↔ p.value = none ∧ q = { p with marker := true } := by
  unfold narrow
  cases p.value <;> simp [fail, eq_comm]

theorem Document.narrow_eq_ok {d e : Document} :
    d.narrow = .ok e ↔ d.tagCount = 1 ∧ e = { d with singleton := true } := by
  unfold narrow
  split
  · rename_i one
    simp [one, eq_comm]
  · rename_i other
    simp [other, refuse, fail]

namespace Refiner

variable {t u : Tag} {item : String}

/-! ### What the rules look for -/

/-- `items` of `item`, `boxes` of `box` and `entries` of `entry`. -/
inductive PluralOf : String → String → Prop
  | s (word : String) : PluralOf (word ++ "s") word
  | es (word : String) : PluralOf (word ++ "es") word
  | ies (stem : String) : PluralOf (stem ++ "ies") (stem ++ "y")

theorem isPluralOf_eq_true {plural singular : List Char} :
    isPluralOf plural singular = true ↔
      plural = singular ++ ['s'] ∨ plural = singular ++ ['e', 's'] ∨
        ∃ stem, plural = stem ++ ['i', 'e', 's'] ∧ singular = stem ++ ['y'] := by
  have es : (Text.stripEnd? ['s'] plural).bind (Text.stripEnd? ['e']) = some singular ↔
      plural = singular ++ ['e', 's'] := by
    simp [Option.bind_eq_some_iff, Text.stripEnd?_eq_some_iff]
  simp only [isPluralOf, Bool.or_eq_true, beq_iff_eq, es, Text.stripEnd?_eq_some_iff, or_assoc]
  refine or_congr Iff.rfl (or_congr Iff.rfl ?_)
  split
  · rename_i p s ies y
    obtain rfl := Text.stripEnd?_eq_some_iff.1 ies
    obtain rfl := Text.stripEnd?_eq_some_iff.1 y
    simp only [beq_iff_eq, List.append_cancel_right_eq, exists_eq_left']
    exact eq_comm
  · rename_i unlike
    refine iff_of_false nofun ?_
    rintro ⟨stem, ies, y⟩
    exact unlike stem stem (Text.stripEnd?_eq_some_iff.2 ies) (Text.stripEnd?_eq_some_iff.2 y)

theorem isPluralOf_iff {plural singular : String} :
    isPluralOf plural.toList singular.toList = true ↔ PluralOf plural singular := by
  rw [isPluralOf_eq_true]
  constructor
  · rintro (s | es | ⟨stem, ies, y⟩)
    · obtain rfl : plural = singular ++ "s" := String.toList_inj.1 (by simpa using s)
      exact .s singular
    · obtain rfl : plural = singular ++ "es" := String.toList_inj.1 (by simpa using es)
      exact .es singular
    · obtain rfl : plural = String.ofList stem ++ "ies" := String.toList_inj.1 (by simpa using ies)
      obtain rfl : singular = String.ofList stem ++ "y" := String.toList_inj.1 (by simpa using y)
      exact .ies _
  · rintro (_ | _ | stem)
    · exact .inl (by simp)
    · exact .inr (.inl (by simp))
    · exact .inr (.inr ⟨stem.toList, by simp, by simp⟩)

/-- The rules take closed tags that have not been narrowed. -/
structure Ripe (t : Tag) : Prop where
  closed : t.closed = true
  generic : t.variant = .generic

/-- Several children of one name, or a lone child whose plural is the name of the tag. -/
structure MakesList (t : Tag) (item : String) : Prop where
  solid : t.void = false
  uncontained : t.content = none
  named : ∀ child ∈ t.children, child.name = item
  several : 2 ≤ t.children.length ∨ t.children.length = 1 ∧ PluralOf t.name item

structure MakesPair (t : Tag) : Prop where
  void : t.void = true
  sides : ∃ l r, t.properties = [l, r] ∧ l.name = "left" ∧ r.name = "right" ∧
    l.value.isSome = true ∧ r.value.isSome = true

structure MakesScalar (t : Tag) : Prop where
  void : t.void = true
  value : ∃ p, t.properties = [p] ∧ p.name = "value"

theorem isList_iff : isList t = true ↔ Ripe t ∧ ∃ item, MakesList t item := by
  simp only [isList, Bool.and_eq_true, Bool.not_eq_true', Option.isNone_iff_eq_none, beq_iff_eq]
  constructor
  · rintro ⟨⟨⟨⟨closed, solid⟩, uncontained⟩, generic⟩, children⟩
    refine ⟨⟨closed, generic⟩, ?_⟩
    split at children
    · cases children
    · rename_i only single
      exact ⟨only.name, solid, uncontained, by simp [single],
        .inr ⟨by simp [single], isPluralOf_iff.1 children⟩⟩
    · rename_i first rest more kids
      have named : ∀ child ∈ rest, child.name = first.name := by simpa using children
      have several : rest ≠ [] := fun none => more (by rw [none])
      refine ⟨first.name, solid, uncontained, by simpa [kids] using named, .inl ?_⟩
      simpa [kids, Nat.one_le_iff_ne_zero] using several
  · rintro ⟨⟨closed, generic⟩, item, solid, uncontained, named, several⟩
    refine ⟨⟨⟨⟨closed, solid⟩, uncontained⟩, generic⟩, ?_⟩
    cases kids : t.children with
    | nil => simp [kids] at several
    | cons first rest =>
      rw [kids, List.forall_mem_cons] at named
      cases rest with
      | nil =>
        obtain plural : PluralOf t.name item := by simpa [kids] using several
        exact isPluralOf_iff.2 (named.1 ▸ plural)
      | cons second rest =>
        refine List.all_eq_true.2 fun child mem => ?_
        rw [named.1, named.2 child mem, beq_self_eq_true]

theorem isPair_iff : isPair t = true ↔ Ripe t ∧ MakesPair t := by
  simp only [isPair, Bool.and_eq_true, beq_iff_eq, Tag.hasPairProperties_iff]
  constructor
  · rintro ⟨⟨⟨closed, void⟩, generic⟩, sides⟩
    exact ⟨⟨closed, generic⟩, void, sides⟩
  · rintro ⟨⟨closed, generic⟩, void, sides⟩
    exact ⟨⟨⟨closed, void⟩, generic⟩, sides⟩

theorem isScalar_iff : isScalar t = true ↔ Ripe t ∧ MakesScalar t := by
  simp only [isScalar, Bool.and_eq_true, beq_iff_eq, Tag.hasScalarProperties_iff]
  constructor
  · rintro ⟨⟨⟨closed, void⟩, generic⟩, value⟩
    exact ⟨⟨closed, generic⟩, void, value⟩
  · rintro ⟨⟨closed, generic⟩, void, value⟩
    exact ⟨⟨⟨closed, void⟩, generic⟩, value⟩

theorem MakesList.children_ne_nil (h : MakesList t item) : t.children ≠ [] := by
  intro none
  have several := h.several
  simp [none] at several

theorem MakesList.unique {other : String} (h : MakesList t item) (h' : MakesList t other) :
    item = other := by
  obtain ⟨child, mem⟩ := List.exists_mem_of_ne_nil _ h.children_ne_nil
  exact (h.named child mem).symm.trans (h'.named child mem)

theorem MakesList.alone (h : MakesList t item) : ¬ MakesPair t ∧ ¬ MakesScalar t :=
  ⟨fun pair => by simpa [h.solid] using pair.void, fun scalar => by simpa [h.solid] using scalar.void⟩

theorem MakesPair.not_scalar (h : MakesPair t) : ¬ MakesScalar t := by
  obtain ⟨l, r, two, -⟩ := h.sides
  rintro ⟨-, p, one, -⟩
  simp [two] at one

/-! ### What the rules make -/

theorem MakesList.narrowToList (h : MakesList t item) :
    t.narrowToList = .ok { t with shape := .list item } := by
  obtain ⟨first, rest, children⟩ := List.exists_cons_of_ne_nil h.children_ne_nil
  obtain ⟨rfl, named⟩ : first.name = item ∧ ∀ child ∈ rest, child.name = item := by
    simpa [children] using h.named
  have alike : rest.all (·.name == first.name) = true := by simpa using named
  simp [Tag.narrowToList, h.solid, h.uncontained, children, alike]

theorem MakesPair.narrowToPair (h : MakesPair t) :
    t.narrowToPair = .ok { t with shape := .pair } := by
  simp [Tag.narrowToPair, h.void, Tag.hasPairProperties_iff.2 h.sides]

theorem MakesScalar.narrowToScalar (h : MakesScalar t) :
    t.narrowToScalar = .ok { t with shape := .scalar } := by
  simp [Tag.narrowToScalar, h.void, Tag.hasScalarProperties_iff.2 h.value]

/-- What comes out of the built-in rules, with what the tag was like. -/
inductive Narrowed (t : Tag) : Tag → Prop
  | list {item : String} (ripe : Ripe t) (makes : MakesList t item) :
    Narrowed t { t with shape := .list item }
  | pair (ripe : Ripe t) (makes : MakesPair t) : Narrowed t { t with shape := .pair }
  | scalar (ripe : Ripe t) (makes : MakesScalar t) : Narrowed t { t with shape := .scalar }
  | kept (unfit : Ripe t → (∀ item, ¬ MakesList t item) ∧ ¬ MakesPair t ∧ ¬ MakesScalar t) :
    Narrowed t t

theorem select_builtin (t : Tag) :
    builtin.tags.select t =
      [("scalar", ⟨isScalar, Tag.narrowToScalar⟩), ("pair", ⟨isPair, Tag.narrowToPair⟩),
        ("list", ⟨isList, Tag.narrowToList⟩)].find? fun e => e.2.accepts t := rfl

theorem refine_tag (t : Tag) : ∃ u, builtin.tags.refine t = .ok u ∧ Narrowed t u := by
  rw [RuleBook.refine, select_builtin]
  -- The last rule of the book is tried first. What a rule takes it can narrow, so none of them fails.
  by_cases scalar : isScalar t = true
  · obtain ⟨ripe, makes⟩ := isScalar_iff.1 scalar
    exact ⟨_, by simp [scalar, makes.narrowToScalar], .scalar ripe makes⟩
  · by_cases pair : isPair t = true
    · obtain ⟨ripe, makes⟩ := isPair_iff.1 pair
      exact ⟨_, by simp [scalar, pair, makes.narrowToPair], .pair ripe makes⟩
    · by_cases list : isList t = true
      · obtain ⟨ripe, item, makes⟩ := isList_iff.1 list
        exact ⟨_, by simp [scalar, pair, list, makes.narrowToList], .list ripe makes⟩
      · refine ⟨t, by simp [scalar, pair, list], .kept fun ripe => ⟨fun item makes => ?_, ?_, ?_⟩⟩
        · exact list (isList_iff.2 ⟨ripe, item, makes⟩)
        · exact fun makes => pair (isPair_iff.2 ⟨ripe, makes⟩)
        · exact fun makes => scalar (isScalar_iff.2 ⟨ripe, makes⟩)

/-- Nothing but the shape is changed. -/
theorem Narrowed.reshaped (h : Narrowed t u) : ∃ shape, u = { t with shape } := by
  cases h with
  | list | pair | scalar => exact ⟨_, rfl⟩
  | kept => exact ⟨t.shape, by cases t; rfl⟩

theorem refine_of_not_ripe (unripe : ¬ Ripe t) : builtin.tags.refine t = .ok t := by
  obtain ⟨u, refined, narrowed⟩ := refine_tag t
  cases narrowed with
  | list ripe | pair ripe | scalar ripe => exact absurd ripe unripe
  | kept => exact refined

theorem Narrowed.refine_again (h : Narrowed t u) (refined : builtin.tags.refine t = .ok u) :
    builtin.tags.refine u = .ok u := by
  cases h with
  | list | pair | scalar => exact refine_of_not_ripe fun ripe => nomatch ripe.generic
  | kept => exact refined

theorem Narrowed.shape_iff (h : Narrowed t u) (ripe : Ripe t) :
    (∀ item, u.shape = .list item ↔ MakesList t item) ∧ (u.shape = .pair ↔ MakesPair t) ∧
      (u.shape = .scalar ↔ MakesScalar t) := by
  cases h with
  | list _ makes =>
    obtain ⟨pair, scalar⟩ := makes.alone
    refine ⟨fun other => ⟨?_, fun makes' => ?_⟩, iff_of_false nofun pair, iff_of_false nofun scalar⟩
    · rintro ⟨⟩
      exact makes
    · rw [makes.unique makes']
  | pair _ makes =>
    exact ⟨fun _ => iff_of_false nofun fun list => list.alone.1 makes, iff_of_true rfl makes,
      iff_of_false nofun makes.not_scalar⟩
  | scalar _ makes =>
    exact ⟨fun _ => iff_of_false nofun fun list => list.alone.2 makes,
      iff_of_false nofun fun pair => pair.not_scalar makes, iff_of_true rfl makes⟩
  | kept unfit =>
    obtain ⟨list, pair, scalar⟩ := unfit ripe
    have generic := Tag.variant_eq_generic.1 ripe.generic
    exact ⟨fun item => iff_of_false (by simp [generic]) (list item),
      iff_of_false (by simp [generic]) pair, iff_of_false (by simp [generic]) scalar⟩

theorem refine_of_makesList (ripe : Ripe t) (makes : MakesList t item) :
    builtin.tags.refine t = .ok { t with shape := .list item } := by
  obtain ⟨u, refined, narrowed⟩ := refine_tag t
  obtain ⟨shape, rfl⟩ := narrowed.reshaped
  obtain rfl : shape = .list item := ((narrowed.shape_iff ripe).1 item).2 makes
  exact refined

theorem refine_of_makesScalar (ripe : Ripe t) (makes : MakesScalar t) :
    builtin.tags.refine t = .ok { t with shape := .scalar } := by
  obtain ⟨u, refined, narrowed⟩ := refine_tag t
  obtain ⟨shape, rfl⟩ := narrowed.reshaped
  obtain rfl : shape = .scalar := (narrowed.shape_iff ripe).2.2.2 makes
  exact refined

theorem refine_property (p : Property) :
    builtin.properties.refine p = .ok { p with marker := p.marker || p.value.isNone } := by
  obtain ⟨name, value, marker⟩ := p
  cases value <;> cases marker <;> rfl

theorem refine_document (d : Document) :
    builtin.documents.refine d = .ok { d with singleton := d.singleton || d.tagCount == 1 } := by
  have rules : builtin.documents.select d =
      [("singleton", (⟨isSingleton, Document.narrow⟩ : Rule Document))].find?
        fun e => e.2.accepts d := rfl
  rw [RuleBook.refine, rules]
  obtain ⟨entries, doctype, version, singleton⟩ := d
  cases singleton with
  | true => simp [isSingleton, Document.variant]
  | false =>
    by_cases one : entries.tagCount = 1 <;>
      simp [isSingleton, Document.variant, Document.narrow, Document.tagCount, one]

/-- Refinement by the built-in rules never fails, changes nothing but the variant of the node, and is
done after one pass. -/
theorem refine_builtin :
    (∀ t : Tag, ∃ u, builtin.tags.refine t = .ok u ∧ (∃ shape, u = { t with shape }) ∧
      t.matching u = true ∧ u.render = t.render ∧ builtin.tags.refine u = .ok u ∧
      (Ripe t → (∀ item, u.shape = .list item ↔ MakesList t item) ∧
        (u.shape = .pair ↔ MakesPair t) ∧ (u.shape = .scalar ↔ MakesScalar t)) ∧
      (¬ Ripe t → u = t)) ∧
    (∀ p : Property, ∃ q, builtin.properties.refine p = .ok q ∧
      q = { p with marker := p.marker || p.value.isNone } ∧
      p.same q = true ∧ q.render = p.render ∧ builtin.properties.refine q = .ok q) ∧
    ∀ d : Document, ∃ e, builtin.documents.refine d = .ok e ∧
      e = { d with singleton := d.singleton || d.tagCount == 1 } ∧
      d.matching e = true ∧ e.render = d.render ∧ builtin.documents.refine e = .ok e := by
  refine ⟨fun t => ?_, fun p => ?_, fun d => ?_⟩
  · obtain ⟨u, refined, narrowed⟩ := refine_tag t
    obtain ⟨shape, reshaped⟩ := narrowed.reshaped
    refine ⟨u, refined, ⟨shape, reshaped⟩, ?_, ?_, narrowed.refine_again refined, narrowed.shape_iff,
      fun unripe => ?_⟩
    · rw [reshaped, Tag.matching_reshaped, Tag.matching_self]
    · rw [reshaped, Tag.render_reshaped]
    · exact Except.ok.inj (refined.symm.trans (refine_of_not_ripe unripe))
  · refine ⟨_, refine_property p, rfl, by simp [Property.same], rfl, ?_⟩
    rw [refine_property]
    simp
  · refine ⟨_, refine_document d, rfl, d.matching_narrowed _, rfl, ?_⟩
    rw [refine_document]
    simp [Document.tagCount]

/-- A lone `entry` makes a list of `entries`. -/
theorem refine_builtin_entries :
    ∃ u, builtin.tags.refine
        { name := "entries", closed := true, children := [{ name := "entry", closed := true }] } =
      .ok u ∧ u.shape = .list "entry" := by
  obtain ⟨u, refined, -, -, -, -, shapes, -⟩ := refine_builtin.1
    { name := "entries", closed := true, children := [{ name := "entry", closed := true }] }
  have plural : PluralOf "entries" "entry" := isPluralOf_iff.1 (by decide)
  exact ⟨u, refined, ((shapes ⟨rfl, rfl⟩).1 "entry").2 ⟨rfl, rfl, by simp, .inr ⟨rfl, plural⟩⟩⟩

end Refiner
end TabMarkup
