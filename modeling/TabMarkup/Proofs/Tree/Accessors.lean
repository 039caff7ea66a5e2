import TabMarkup.Proofs.Tree.Payload

/-!
What the accessors of narrowed tags find and write. The sides of a pair can always be written. The
value of a scalar can be written unless it has been made a marker: being a scalar asks for the
property only, and a marker refuses a value.
-/
namespace TabMarkup.Tag

variable {t u : Tag} {p l r : Property} {value : String}

/-! ### Lists -/

theorem addChild_list_iff {item : String} {child : Tag} (shape : t.shape = .list item)
    (unclosed : t.closed = false) (solid : t.void = false) :
    (∃ u, t.addChild child = .ok u) ↔ child.name = item := by
  have thawed : t.refuseFrozenBody = .ok () := refuseFrozenBody_eq_ok.2 ⟨solid, unclosed⟩
  simp only [addChild, thawed, ok_bind, shape]
  by_cases named : child.name = item <;> simp [named, fail]

/-! ### Pairs -/

theorem setPropertyAt_of_unmarked {i : Nat} (found : t.properties[i]? = some p)
    (unmarked : p.marker = false) :
    t.setPropertyAt i value =
      .ok { t with properties := t.properties.set i { p with value := some value } } :=
  setPropertyAt_eq_ok.2 ⟨p, found, unmarked, rfl⟩

/-- The sides of a pair, neither of which is a marker. -/
theorem Fitting.sides (h : t.Fitting) (pair : t.shape = .pair) :
    ∃ l r a b, t.properties = [l, r] ∧ (l.name = "left" ∧ r.name = "right") ∧
      (l.value = some a ∧ r.value = some b) ∧ l.marker = false ∧ r.marker = false := by
  obtain ⟨l, r, sides, left, right, valued, valued'⟩ := hasPairProperties_iff.1 (h.pair pair)
  obtain ⟨a, ha⟩ := Option.isSome_iff_exists.1 valued
  obtain ⟨b, hb⟩ := Option.isSome_iff_exists.1 valued'
  have unmarked (q : Property) (mem : q ∈ t.properties) (valued : q.value.isSome = true) :
      q.marker = false := by
    cases marker : q.marker with
    | false => rfl
    | true => simp [h.bare q mem marker] at valued
  exact ⟨l, r, a, b, sides, ⟨left, right⟩, ⟨ha, hb⟩, unmarked l (by simp [sides]) valued,
    unmarked r (by simp [sides]) valued'⟩

theorem setLeft_pair (pair : t.shape = .pair) (sides : t.properties = [l, r])
    (unmarked : l.marker = false) (value : String) :
    t.setLeft value = .ok { t with properties := [{ l with value := some value }, r] } := by
  have found : t.properties[0]? = some l := by simp [sides]
  rw [setLeft, setSide_eq_ok]
  exact ⟨pair, by rw [setPropertyAt_of_unmarked found unmarked, sides]; rfl⟩

theorem setRight_pair (pair : t.shape = .pair) (sides : t.properties = [l, r])
    (unmarked : r.marker = false) (value : String) :
    t.setRight value = .ok { t with properties := [l, { r with value := some value }] } := by
  have found : t.properties[1]? = some r := by simp [sides]
  rw [setRight, setSide_eq_ok]
  exact ⟨pair, by rw [setPropertyAt_of_unmarked found unmarked, sides]; rfl⟩

/-- However a tag came about: a list has no content, its children have its item name, and while it is
open and not void it takes the children of that name and no others; a pair has exactly a left and a
right property with values, and either side can be given any value, which changes nothing else; a
scalar has exactly one property, the value. -/
theorem Reached.payload (h : t.Reached) :
    (t.variant = .list → t.content = none ∧ ∃ item, t.item? = some item ∧
      (∀ child ∈ t.children, child.name = item) ∧
      (t.closed = false → t.void = false →
        ∀ child, (∃ u, t.addChild child = .ok u) ↔ child.name = item)) ∧
    (t.variant = .pair → ∃ l r a b, t.properties = [l, r] ∧ (l.name = "left" ∧ r.name = "right") ∧
      (l.value = some a ∧ r.value = some b) ∧ t.sides? = some (a, b) ∧
      ∀ value,
        (∃ u, t.setLeft value = .ok u ∧ u.left? = some value ∧ u.right? = t.right? ∧
          u = { t with properties := [{ l with value := some value }, r] }) ∧
        ∃ u, t.setRight value = .ok u ∧ u.right? = some value ∧ u.left? = t.left? ∧
          u = { t with properties := [l, { r with value := some value }] }) ∧
    (t.variant = .scalar → ∃ p, t.properties = [p] ∧ p.name = "value") := by
  have fits := h.fits
  refine ⟨fun list => ?_, fun pair => ?_, fun scalar => ?_⟩
  · obtain ⟨item, shape⟩ := variant_eq_list.1 list
    obtain ⟨content, children⟩ := fits.list item shape
    exact ⟨content, item, by simp [item?, shape], children,
      fun unclosed solid child => addChild_list_iff shape unclosed solid⟩
  · have pair := variant_eq_pair.1 pair
    obtain ⟨l, r, a, b, sides, names, ⟨ha, hb⟩, left, right⟩ := fits.sides pair
    refine ⟨l, r, a, b, sides, names, ⟨ha, hb⟩, ?_, fun value => ⟨?_, ?_⟩⟩
    · simp [sides?, left?, right?, side?, pair, sides, ha, hb]
    · refine ⟨_, setLeft_pair pair sides left value, ?_, ?_, rfl⟩
      · simp [left?, side?, pair]
      · simp [right?, side?, pair, sides]
    · refine ⟨_, setRight_pair pair sides right value, ?_, ?_, rfl⟩
      · simp [right?, side?, pair]
      · simp [left?, side?, pair, sides]
  · exact hasScalarProperties_iff.1 (fits.scalar (variant_eq_scalar.1 scalar))

/-- A pair that was narrowed while it was open, lost its void flag and had a side written. -/
def hook : Tag := performAll { name := "hook" }
  [([], .addProperty { name := "left", value := some "A" }),
    ([], .addProperty { name := "right", value := some "12" }), ([], .setVoid true), ([], .narrowToPair),
    ([], .setVoid false), ([], .setLeft "B")]

theorem reached_hook : hook.Reached := by
  have left : Property.Reached { name := "left", value := some "A" } :=
    Property.reached_of_name (by decide) _
  have right : Property.Reached { name := "right", value := some "12" } :=
    Property.reached_of_name (by decide) _
  exact (reached_of_name (by decide)).performAll (by simp [left, right])

theorem payload_hook :
    hook.Reached ∧ hook.variant = .pair ∧ hook.void = false ∧
      ∃ l r a b, hook.properties = [l, r] ∧ (l.name = "left" ∧ r.name = "right") ∧
        (l.value = some a ∧ r.value = some b) ∧ hook.sides? = some (a, b) ∧
        ∀ value,
          (∃ u, hook.setLeft value = .ok u ∧ u.left? = some value ∧ u.right? = hook.right? ∧
            u = { hook with properties := [{ l with value := some value }, r] }) ∧
          ∃ u, hook.setRight value = .ok u ∧ u.right? = some value ∧ u.left? = hook.left? ∧
            u = { hook with properties := [l, { r with value := some value }] } :=
  ⟨reached_hook, rfl, rfl, reached_hook.payload.2.1 rfl⟩

/-! ### Scalars -/

theorem setValue_scalar (scalar : t.shape = .scalar) (single : t.properties = [p])
    (unmarked : p.marker = false) (value : String) :
    t.setValue value = .ok { t with properties := [{ p with value := some value }] } := by
  have found : t.properties[0]? = some p := by simp [single]
  rw [setValue_eq_ok]
  exact ⟨scalar, by rw [setPropertyAt_of_unmarked found unmarked, single]; rfl⟩

theorem setValue_marked (scalar : t.shape = .scalar) (single : t.properties = [p])
    (marked : p.marker = true) (value : String) :
    t.setValue value =
      fail (.node (.unsupported ("set_value on marker property '" ++ p.name ++ "'"))) := by
  simp [setValue, scalar, setPropertyAt, single, Property.setValue, Property.refuseMarker, marked,
    failIf, fail]

/-- However a scalar came about, the built-in rules for properties and tags included, its value can
be written if and only if the value is not a marker. Then it is what was written, and the name, the
flags, the variant and the number of properties are as before. A marker has no value and refuses
one. -/
theorem Reached.setValue_iff (h : t.Reached) (scalar : t.variant = .scalar) (value : String) :
    ∃ p, t.properties = [p] ∧ p.name = "value" ∧
      ((∃ u, t.setValue value = .ok u) ↔ p.marker = false) ∧
      (∀ u, t.setValue value = .ok u →
        u.value? = some value ∧ u.name = t.name ∧ u.void = t.void ∧ u.closed = t.closed ∧
          u.variant = t.variant ∧ u.properties.length = t.properties.length) ∧
      (p.marker = true → t.value? = none ∧ t.setValue value =
        fail (.node (.unsupported "set_value on marker property 'value'"))) := by
  have scalar := variant_eq_scalar.1 scalar
  obtain ⟨p, single, name⟩ := hasScalarProperties_iff.1 (h.fits.scalar scalar)
  have refused (marked : p.marker = true) := setValue_marked scalar single marked value
  refine ⟨p, single, name, ⟨?_, ?_⟩, ?_, ?_⟩
  · rintro ⟨u, done⟩
    cases marked : p.marker with
    | false => rfl
    | true => rw [refused marked] at done; cases done
  · exact fun unmarked => ⟨_, setValue_scalar scalar single unmarked value⟩
  · intro u done
    cases marked : p.marker with
    | false =>
      rw [setValue_scalar scalar single marked] at done
      cases done
      simp [value?, scalar, single, variant]
    | true => rw [refused marked] at done; cases done
  · intro marked
    refine ⟨?_, by rw [refused marked, name]; rfl⟩
    have bare := h.fits.bare p (by simp [single]) marked
    simp [value?, scalar, single, bare]

/-- A scalar that was narrowed before its value was given. -/
def count : Tag := performAll { name := "count" }
  [([], .addProperty { name := "value" }), ([], .setVoid true), ([], .narrowToScalar), ([], .close)]

theorem reached_count : count.Reached := by
  have new : Property.Reached { name := "value" } := Property.reached_of_name (by decide) none
  exact (reached_of_name (by decide)).performAll (by simp [new])

theorem setValue_count :
    count.Reached ∧ count.variant = .scalar ∧ count.value? = none ∧
      ∃ p, count.properties = [p] ∧ p.name = "value" ∧
        ((∃ u, count.setValue "7" = .ok u) ↔ p.marker = false) ∧
        (∀ u, count.setValue "7" = .ok u →
          u.value? = some "7" ∧ u.name = count.name ∧ u.void = count.void ∧ u.closed = count.closed ∧
            u.variant = count.variant ∧ u.properties.length = count.properties.length) ∧
        (p.marker = true → count.value? = none ∧ count.setValue "7" =
          fail (.node (.unsupported "set_value on marker property 'value'"))) :=
  ⟨reached_count, rfl, rfl, reached_count.setValue_iff rfl "7"⟩

/-- A scalar whose value the built-in rules made a marker before it was added. -/
def blank : Tag :=
  ((performAll { name := "item" }
    [([], .addProperty { name := "value", marker := true }), ([], .setVoid true),
      ([], .close)])).narrowed

theorem reached_blank : blank.Reached := by
  have new : Property.Reached { name := "value" } := Property.reached_of_name (by decide) none
  have marker : Property.Reached { name := "value", marker := true } := new.refine rfl
  exact .refine [] ((reached_of_name (by decide)).performAll (by simp [marker]))

theorem setValue_blank :
    blank.Reached ∧ blank.variant = .scalar ∧ ∀ u, blank.setValue "1" ≠ .ok u :=
  ⟨reached_blank, rfl, fun _ done => nomatch done⟩

end TabMarkup.Tag
