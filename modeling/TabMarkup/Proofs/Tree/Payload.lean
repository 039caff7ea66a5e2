import TabMarkup.Proofs.Refinement.Builtin

/-!
What the shape of a tag says of its content, children and properties. A shape is stored beside the
data that it describes, and a tag can be narrowed while it is open and edited afterwards. The
operations keep the two together: those that could part them ask for the shape.
-/
namespace TabMarkup

/-- Properties as they come about. -/
inductive Property.Reached : Property → Prop
  | new {name : String} {value : Option String} {p : Property} (made : new name value = .ok p) :
    Reached p
  | edit {p : Property} (op : Operation) (before : Reached p) : Reached (p.perform op).2
  | refine {p q : Property} (before : Reached p)
    (refined : Refiner.builtin.properties.refine p = .ok q) : Reached q

namespace Property
variable {p q : Property}

theorem reached_of_name {name : String} (named : name ≠ "") (value : Option String) :
    Reached { name, value } := by
  have made : new name value = .ok { name, value } := by simp [Property.new, named]
  exact .new made

/-- A marker has no value. -/
theorem Reached.bare (h : p.Reached) : p.marker = true → p.value = none := by
  induction h with
  | new made =>
    unfold Property.new at made
    split at made <;> cases made
    exact fun marker => nomatch marker
  | @edit p op _ ih =>
    unfold perform
    split
    · rename_i answer q done
      cases op with
      | setValue value =>
        obtain ⟨_, set, ⟨⟩⟩ := map_eq_ok.1 done
        obtain ⟨_, unmarked, ⟨⟩⟩ := bind_eq_ok.1 set
        intro marker
        rw [failIf_eq_ok.1 unmarked] at marker
        cases marker
      | removeValue =>
        obtain ⟨_, _, ⟨⟩⟩ := bind_eq_ok.1 done
        exact fun _ => rfl
      | narrow =>
        obtain ⟨_, narrowed, ⟨⟩⟩ := map_eq_ok.1 done
        obtain ⟨bare, rfl⟩ := narrow_eq_ok.1 narrowed
        exact fun _ => bare
      | widen =>
        cases done
        exact fun marker => nomatch marker
    · exact ih
  | refine _ refined ih =>
    rcases RuleBook.of_refine refined with rfl | ⟨e, mem, applied⟩
    · exact ih
    · obtain rfl := List.mem_singleton.1 mem
      obtain ⟨bare, rfl⟩ := narrow_eq_ok.1 applied
      exact fun _ => bare

end Property

namespace Tag
variable {t u : Tag} {p : Property}

/-! ### Refinement by the built-in rules -/

/-- The tag that the built-in rules make of a tag. -/
def narrowed (t : Tag) : Tag := (Refiner.builtin.tags.refine t).toOption.getD t

/-- The built-in rules do what the operations do. A tag that no rule takes is one that some operation
kept. -/
theorem edited_narrowed (t : Tag) : ∃ op, Edited t op t.narrowed ∧ ∀ p, op ≠ .addProperty p := by
  obtain ⟨u, refined, narrowed⟩ := Refiner.refine_tag t
  have same : t.narrowed = u := by rw [Tag.narrowed, refined]; rfl
  rw [same]
  cases narrowed with
  | list _ makes =>
    exact ⟨.narrowToList, .narrowToList makes.solid makes.uncontained makes.children_ne_nil makes.named,
      fun _ => nofun⟩
  | pair _ makes =>
    exact ⟨.narrowToPair, .narrowToPair makes.void (hasPairProperties_iff.2 makes.sides),
      fun _ => nofun⟩
  | scalar _ makes =>
    exact ⟨.narrowToScalar, .narrowToScalar makes.void (hasScalarProperties_iff.2 makes.value),
      fun _ => nofun⟩
  | kept => exact ⟨.close, .kept _, fun _ => nofun⟩

theorem name_narrowed (t : Tag) : t.narrowed.name = t.name := by
  obtain ⟨_, edited, -⟩ := edited_narrowed t
  exact edited.name

/-! ### What a shape says -/

structure Fitting (t : Tag) : Prop where
  list : ∀ item, t.shape = .list item → t.content = none ∧ ∀ child ∈ t.children, child.name = item
  pair : t.shape = .pair → t.hasPairProperties = true
  scalar : t.shape = .scalar → t.hasScalarProperties = true
  /-- A marker has no value, so the sides of a pair are no markers and can be written. -/
  bare : ∀ p ∈ t.properties, p.marker = true → p.value = none

/-- Writing the value of a property in place keeps what a property may be. -/
theorem Fitting.bare_set {value : String} {i : Nat} (h : t.Fitting) (unmarked : p.marker = false) :
    ∀ q ∈ t.properties.set i { p with value := some value }, q.marker = true → q.value = none := by
  intro q mem marker
  rcases List.mem_or_eq_of_mem_set mem with old | rfl
  · exact h.bare q old marker
  · simp [unmarked] at marker

theorem Edited.fitting {op : Operation} (h : Edited t op u)
    (given : ∀ p, op = .addProperty p → p.marker = true → p.value = none) (before : t.Fitting) :
    u.Fitting := by
  obtain ⟨list, pair, scalar, bare⟩ := id before
  -- Where an operation does not ask for the shape, what it writes is nothing that a shape speaks of.
  cases h with
  | kept => exact before
  | @addProperty p free fresh =>
    refine ⟨list, fun h => absurd h free.1, fun h => absurd h free.2, fun q mem => ?_⟩
    rcases List.mem_append.1 mem with old | new
    · exact bare q old
    · rw [List.mem_singleton.1 new]
      exact given p rfl
  | removeProperty free =>
    exact ⟨list, fun h => absurd h free.1, fun h => absurd h free.2,
      fun q mem => bare q (List.mem_of_mem_eraseP mem)⟩
  | appendContent _ _ unlisted =>
    refine ⟨fun item shape => ?_, pair, scalar, bare⟩
    have shape : t.shape = .list item := shape
    simp [item?, shape] at unlisted
  | removeContent => exact ⟨fun item shape => ⟨rfl, (list item shape).2⟩, pair, scalar, bare⟩
  | addChild _ _ fits =>
    refine ⟨fun item shape => ⟨(list item shape).1, fun child mem => ?_⟩, pair, scalar, bare⟩
    rcases List.mem_append.1 mem with old | new
    · exact (list item shape).2 child old
    · rw [List.mem_singleton.1 new]
      exact fits item shape
  | removeChild =>
    exact ⟨fun item shape => ⟨(list item shape).1, fun child mem =>
      (list item shape).2 child (List.mem_of_mem_eraseIdx mem)⟩, pair, scalar, bare⟩
  | setVoid => exact ⟨list, pair, scalar, bare⟩
  | close => exact ⟨list, pair, scalar, bare⟩
  | @setValue value p shape first unmarked =>
    refine ⟨list, fun other => ?_, fun _ => ?_, before.bare_set unmarked⟩
    · simp [shape] at other
    · obtain ⟨q, single, name⟩ := hasScalarProperties_iff.1 (scalar shape)
      obtain rfl : q = p := by simpa [single] using first
      exact hasScalarProperties_iff.2 ⟨{ q with value := some value }, by simp [single], name⟩
  | @setLeft value p shape first unmarked =>
    refine ⟨list, fun _ => ?_, fun other => ?_, before.bare_set unmarked⟩
    · obtain ⟨l, r, sides, left, right, _, valued⟩ := hasPairProperties_iff.1 (pair shape)
      obtain rfl : l = p := by simpa [sides] using first
      exact hasPairProperties_iff.2
        ⟨{ l with value := some value }, r, by simp [sides], left, right, rfl, valued⟩
    · simp [shape] at other
  | @setRight value p shape second unmarked =>
    refine ⟨list, fun _ => ?_, fun other => ?_, before.bare_set unmarked⟩
    · obtain ⟨l, r, sides, left, right, valued, _⟩ := hasPairProperties_iff.1 (pair shape)
      obtain rfl : r = p := by simpa [sides] using second
      exact hasPairProperties_iff.2
        ⟨l, { r with value := some value }, by simp [sides], left, right, valued, rfl⟩
    · simp [shape] at other
  | @narrowToList item _ uncontained _ named =>
    refine ⟨fun other shape => ?_, nofun, nofun, bare⟩
    cases shape
    exact ⟨uncontained, named⟩
  | narrowToPair _ sides => exact ⟨nofun, fun _ => sides, nofun, bare⟩
  | narrowToScalar _ value => exact ⟨nofun, nofun, fun _ => value, bare⟩
  | widen => exact ⟨nofun, nofun, nofun, bare⟩

theorem Fitting.below {children : List Tag} (h : t.Fitting)
    (named : children.map (·.name) = t.children.map (·.name)) : Fitting { t with children } := by
  refine ⟨fun item shape => ⟨(h.list item shape).1, fun child mem => ?_⟩, h.pair, h.scalar, h.bare⟩
  have known : child.name ∈ t.children.map (·.name) := named ▸ List.mem_map_of_mem mem
  obtain ⟨old, before, same⟩ := List.mem_map.1 known
  exact same ▸ (h.list item shape).2 old before

/-! ### Histories -/

/-- Tags that operations and the built-in rules lead to, at the root and further down. The children
that are given to a tag are any tags. -/
inductive Reached : Tag → Prop
  | new {name : String} {t : Tag} (made : new name = .ok t) : Reached t
  | edit {t : Tag} (way : List Nat) (op : Operation)
    (given : ∀ p, op = .addProperty p → p.Reached) (before : Reached t) :
    Reached (t.performAt way op).2
  | refine {t : Tag} (way : List Nat) (before : Reached t) : Reached (modifyAt narrowed way t)

theorem reached_of_name {name : String} (named : name ≠ "") : Reached { name } :=
  .new (new_eq_ok.2 ⟨named, rfl⟩)

theorem Reached.performAll {ops : List (List Nat × Operation)} (h : t.Reached)
    (given : ∀ op ∈ ops, ∀ p, op.2 = .addProperty p → p.Reached) : (t.performAll ops).Reached := by
  induction ops generalizing t with
  | nil => exact h
  | cons op ops ih =>
    obtain ⟨first, rest⟩ := List.forall_mem_cons.1 given
    exact ih (h.edit op.1 op.2 first) rest

theorem Reached.fits (h : t.Reached) : t.Fitting := by
  induction h with
  | new made =>
    obtain ⟨-, rfl⟩ := new_eq_ok.1 made
    exact ⟨nofun, nofun, nofun, nofun⟩
  | edit way op given _ ih =>
    exact performAt_keeps (fun u edited => edited.fitting (fun p same => (given p same).bare) ih)
      fun children named => ih.below named
  | @refine t way _ ih =>
    cases way with
    | nil =>
      obtain ⟨op, edited, other⟩ := edited_narrowed t
      exact edited.fitting (fun p same => absurd same (other p)) ih
    | cons i way => exact ih.below (map_name_modify fun child => name_modifyAt name_narrowed way child)

end Tag
end TabMarkup
