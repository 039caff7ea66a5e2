import TabMarkup.Proofs.Tree.Editing

/-!
What holds of every tag that came about by operations on tags: a void tag is empty, and no property
is there twice. The setters of pairs and scalars write a property without asking whether there is an
equal one; they keep the second, because the properties of a pair have two names and a scalar has one
property, and neither can be added to.
-/
namespace TabMarkup.Tag

/-- No two properties have the same name and the same value. -/
def Distinct (ps : List Property) : Prop :=
  ps.Pairwise fun p q => ¬ (p.name = q.name ∧ p.value = q.value)

/-- What every operation keeps of a tag. -/
structure Orderly (t : Tag) : Prop where
  empty : t.void = true → t.content = none ∧ t.children = []
  distinct : Distinct t.properties
  sides : t.shape = .pair → ∃ l r, t.properties = [l, r] ∧ l.name ≠ r.name
  single : t.shape = .scalar → ∃ p, t.properties = [p]

variable {t u : Tag} {p q : Property}

theorem same_eq_true : p.same q = true ↔ p.name = q.name ∧ p.value = q.value := by
  simp [Property.same]

theorem Distinct.concat {ps : List Property} (h : Distinct ps) (fresh : ps.any (·.same p) = false) :
    Distinct (ps ++ [p]) := by
  refine List.pairwise_append.2 ⟨h, List.pairwise_singleton _ p, fun q mem r single => ?_⟩
  rw [List.mem_singleton.1 single, ← same_eq_true, Bool.not_eq_true]
  exact Bool.eq_false_iff.2 (List.any_eq_false.1 fresh q mem)

theorem distinct_pair (names : p.name ≠ q.name) : Distinct [p, q] := by
  simp [Distinct, names]

theorem hasPairProperties_cases (h : t.hasPairProperties = true) :
    ∃ l r, t.properties = [l, r] ∧ l.name ≠ r.name := by
  obtain ⟨l, r, sides, left, right, -⟩ := hasPairProperties_iff.1 h
  exact ⟨l, r, sides, by simp [left, right]⟩

theorem hasScalarProperties_cases (h : t.hasScalarProperties = true) : ∃ p, t.properties = [p] := by
  obtain ⟨p, single, -⟩ := hasScalarProperties_iff.1 h
  exact ⟨p, single⟩

theorem Edited.orderly {op : Operation} (h : Edited t op u) (before : t.Orderly) : u.Orderly := by
  obtain ⟨empty, distinct, sides, single⟩ := before
  cases h with
  | kept => exact ⟨empty, distinct, sides, single⟩
  | addProperty free fresh =>
    exact ⟨empty, distinct.concat fresh, fun pair => absurd pair free.1,
      fun scalar => absurd scalar free.2⟩
  | removeProperty free =>
    exact ⟨empty, distinct.sublist List.eraseP_sublist, fun pair => absurd pair free.1,
      fun scalar => absurd scalar free.2⟩
  | appendContent solid => exact ⟨fun void => by simp [solid] at void, distinct, sides, single⟩
  | removeContent => exact ⟨fun void => ⟨rfl, (empty void).2⟩, distinct, sides, single⟩
  | addChild solid => exact ⟨fun void => by simp [solid] at void, distinct, sides, single⟩
  | removeChild =>
    exact ⟨fun void => ⟨(empty void).1, by simp [(empty void).2]⟩, distinct, sides, single⟩
  | setVoid _ fits => exact ⟨fits, distinct, sides, single⟩
  | close => exact ⟨empty, distinct, sides, single⟩
  | setValue scalar =>
    obtain ⟨p, properties⟩ := single scalar
    refine ⟨empty, ?_, fun pair => ?_, fun _ => ?_⟩
    · simp [properties, Distinct]
    · simp [scalar] at pair
    · simp [properties]
  | @setLeft value left pair found =>
    obtain ⟨l, r, properties, names⟩ := sides pair
    obtain rfl : l = left := by simpa [properties] using found
    have after : t.properties.set 0 { l with value := some value } =
      [{ l with value := some value }, r] := by rw [properties]; rfl
    exact ⟨empty, after ▸ distinct_pair names, fun _ => ⟨_, _, after, names⟩,
      fun scalar => by simp [pair] at scalar⟩
  | @setRight value right pair found =>
    obtain ⟨l, r, properties, names⟩ := sides pair
    obtain rfl : r = right := by simpa [properties] using found
    have after : t.properties.set 1 { r with value := some value } =
      [l, { r with value := some value }] := by rw [properties]; rfl
    exact ⟨empty, after ▸ distinct_pair names, fun _ => ⟨_, _, after, names⟩,
      fun scalar => by simp [pair] at scalar⟩
  | narrowToList solid =>
    exact ⟨fun void => by simp [solid] at void, distinct, fun pair => (nomatch pair),
      fun scalar => (nomatch scalar)⟩
  | narrowToPair void pair =>
    exact ⟨empty, distinct, fun _ => hasPairProperties_cases pair, fun scalar => (nomatch scalar)⟩
  | narrowToScalar void value =>
    exact ⟨empty, distinct, fun pair => (nomatch pair), fun _ => hasScalarProperties_cases value⟩
  | widen => exact ⟨empty, distinct, fun pair => (nomatch pair), fun scalar => (nomatch scalar)⟩

/-- Wherever it stands in a tree that came about by operations, a void tag has neither content nor
children, and no tag has two properties of the same name and value. -/
theorem Built.empty_and_distinct (h : t.Built) {way : List Nat} (found : t.descendant? way = some u) :
    (u.void = true → u.content = none ∧ u.children = []) ∧ Distinct u.properties := by
  have fresh (name : String) : Orderly { name } :=
    ⟨fun void => (nomatch void), .nil, fun pair => (nomatch pair), fun scalar => (nomatch scalar)⟩
  have below (t : Tag) (children : List Tag) (same : children.length = t.children.length)
      (orderly : t.Orderly) : Orderly { t with children } := by
    refine ⟨fun void => ⟨(orderly.empty void).1, ?_⟩, orderly.distinct, orderly.sides, orderly.single⟩
    rwa [(orderly.empty void).2, List.length_nil, List.length_eq_zero_iff] at same
  have orderly := h.everywhere (P := Orderly) fresh Edited.orderly below found
  exact ⟨orderly.empty, orderly.distinct⟩

def shelf : Tag := performAll { name := "shelf" }
  [([], .addProperty { name := "left", value := some "A" }),
    ([], .addProperty { name := "right", value := some "12" }), ([], .setVoid true), ([], .narrowToPair),
    ([], .close)]

/-- A list whose only child is a pair, one side of which was written after it had become a child. -/
def shelves : Tag := performAll { name := "shelves" }
  [([], .addChild shelf), ([], .narrowToList), ([], .close), ([0], .setLeft "12")]

theorem built_shelves : shelves.Built := by
  have pair : shelf.Built := (built_of_name (by decide)).performAll (by simp)
  exact (built_of_name (by decide)).performAll (by simp [pair])

/-- The sides of the pair have one value under two names. -/
theorem empty_and_distinct_shelves :
    shelves.Built ∧ ∃ u, shelves.descendant? [0] = some u ∧ u.void = true ∧
      u.properties.map (·.value) = [some "12", some "12"] ∧
      (u.void = true → u.content = none ∧ u.children = []) ∧ Distinct u.properties := by
  have found : shelves.descendant? [0] = some _ := rfl
  exact ⟨built_shelves, _, found, rfl, rfl, built_shelves.empty_and_distinct found⟩

end TabMarkup.Tag
