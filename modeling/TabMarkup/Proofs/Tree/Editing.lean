import TabMarkup.Tree.Editing

/-!
Tags as they come about: new, and then edited by one operation after the other, at the root or
further down, with children that came about in the same way. What an operation can do to a tag is
said once; what a history of operations keeps is derived from that.
-/
namespace TabMarkup.Tag

variable {t u : Tag}

/-! ### Refusals -/

/-- The properties of the tag can be added to and taken away. -/
def Unshaped (t : Tag) : Prop := t.shape ≠ .pair ∧ t.shape ≠ .scalar

theorem refuseShapedProperties_eq_ok {operation : String} {x : Unit} :
    t.refuseShapedProperties operation = .ok x ↔ t.Unshaped := by
  unfold refuseShapedProperties Unshaped
  cases t.shape <;> simp [unsupported, fail]

theorem refuseClosed_eq_ok {x : Unit} : t.refuseClosed = .ok x ↔ t.closed = false := failIf_eq_ok

theorem refuseFrozenBody_eq_ok {x : Unit} :
    t.refuseFrozenBody = .ok x ↔ t.void = false ∧ t.closed = false := by
  unfold refuseFrozenBody
  cases t.void <;> simp [refuseClosed_eq_ok, fail]

theorem new_eq_ok {name : String} : new name = .ok t ↔ name ≠ "" ∧ t = { name } := by
  unfold new
  split <;> simp [*, fail, eq_comm]

/-! ### Variants -/

theorem variant_eq_generic : t.variant = .generic ↔ t.shape = .generic := by
  unfold variant Shape.variant
  cases t.shape <;> simp

theorem variant_eq_list : t.variant = .list ↔ ∃ item, t.shape = .list item := by
  unfold variant Shape.variant
  cases t.shape <;> simp

theorem variant_eq_pair : t.variant = .pair ↔ t.shape = .pair := by
  unfold variant Shape.variant
  cases t.shape <;> simp

theorem variant_eq_scalar : t.variant = .scalar ↔ t.shape = .scalar := by
  unfold variant Shape.variant
  cases t.shape <;> simp

/-! ### The properties of pairs and scalars -/

theorem hasPairProperties_iff :
    t.hasPairProperties = true ↔
      ∃ l r, t.properties = [l, r] ∧ l.name = "left" ∧ r.name = "right" ∧
        l.value.isSome = true ∧ r.value.isSome = true := by
  unfold hasPairProperties
  constructor
  · intro h
    split at h
    · rename_i l r sides
      simp only [Bool.and_eq_true, beq_iff_eq] at h
      obtain ⟨⟨⟨left, right⟩, valued⟩, valued'⟩ := h
      exact ⟨l, r, sides, left, right, valued, valued'⟩
    · cases h
  · rintro ⟨l, r, sides, left, right, valued, valued'⟩
    simp [sides, left, right, valued, valued']

theorem hasScalarProperties_iff :
    t.hasScalarProperties = true ↔ ∃ p, t.properties = [p] ∧ p.name = "value" := by
  unfold hasScalarProperties
  constructor
  · intro h
    split at h
    · exact ⟨_, ‹_›, beq_iff_eq.1 h⟩
    · cases h
  · rintro ⟨p, single, name⟩
    simp [single, name]

/-! ### What an operation makes of a tag -/

/-- What comes out of an operation, with what the tag was like for it to be done. An operation that
is refused, or that finds nothing to do, keeps the tag. -/
inductive Edited (t : Tag) : Operation → Tag → Prop
  | kept (op : Operation) : Edited t op t
  | addProperty {p : Property} (free : t.Unshaped) (fresh : t.hasProperty p = false) :
    Edited t (.addProperty p) { t with properties := t.properties ++ [p] }
  | removeProperty {p : Property} (free : t.Unshaped) :
    Edited t (.removeProperty p) { t with properties := t.properties.eraseP (·.same p) }
  | appendContent {line : String} (solid : t.void = false) (unclosed : t.closed = false)
    (unlisted : t.item? = none) :
    Edited t (.appendContent line) { t with content := some (joinLine t.content line) }
  | removeContent (unclosed : t.closed = false) : Edited t .removeContent { t with content := none }
  | addChild {child : Tag} (solid : t.void = false) (unclosed : t.closed = false)
    (fits : ∀ item, t.shape = .list item → child.name = item) :
    Edited t (.addChild child) { t with children := t.children ++ [child] }
  | removeChild {index : Nat} (unclosed : t.closed = false) (inside : index < t.children.length) :
    Edited t (.removeChild index) { t with children := t.children.eraseIdx index }
  | setVoid {void : Bool} (unclosed : t.closed = false)
    (empty : void = true → t.content = none ∧ t.children = []) :
    Edited t (.setVoid void) { t with void }
  | close : Edited t .close { t with closed := true }
  | setValue {value : String} {p : Property} (shape : t.shape = .scalar)
    (first : t.properties[0]? = some p) (unmarked : p.marker = false) :
    Edited t (.setValue value)
      { t with properties := t.properties.set 0 { p with value := some value } }
  | setLeft {value : String} {p : Property} (shape : t.shape = .pair)
    (left : t.properties[0]? = some p) (unmarked : p.marker = false) :
    Edited t (.setLeft value)
      { t with properties := t.properties.set 0 { p with value := some value } }
  | setRight {value : String} {p : Property} (shape : t.shape = .pair)
    (right : t.properties[1]? = some p) (unmarked : p.marker = false) :
    Edited t (.setRight value)
      { t with properties := t.properties.set 1 { p with value := some value } }
  | narrowToList {item : String} (solid : t.void = false) (uncontained : t.content = none)
    (children : t.children ≠ []) (named : ∀ child ∈ t.children, child.name = item) :
    Edited t .narrowToList { t with shape := .list item }
  | narrowToPair (void : t.void = true) (sides : t.hasPairProperties = true) :
    Edited t .narrowToPair { t with shape := .pair }
  | narrowToScalar (void : t.void = true) (value : t.hasScalarProperties = true) :
    Edited t .narrowToScalar { t with shape := .scalar }
  | widen : Edited t .widen { t with shape := .generic }

theorem setPropertyAt_eq_ok {index : Nat} {value : String} :
    t.setPropertyAt index value = .ok u ↔
      ∃ p, t.properties[index]? = some p ∧ p.marker = false ∧
        u = { t with properties := t.properties.set index { p with value := some value } } := by
  unfold setPropertyAt
  cases t.properties[index]? with
  | none => simp [fail]
  | some p =>
    simp only [Property.setValue, Property.refuseMarker, bind_eq_ok, failIf_eq_ok, pure_eq_ok,
      Except.ok.injEq, Option.some.injEq, exists_eq_left']
    constructor
    · rintro ⟨_, ⟨_, unmarked, rfl⟩, rfl⟩
      exact ⟨unmarked, rfl⟩
    · rintro ⟨unmarked, rfl⟩
      exact ⟨_, ⟨(), unmarked, rfl⟩, rfl⟩

theorem setValue_eq_ok {value : String} :
    t.setValue value = .ok u ↔ t.shape = .scalar ∧ t.setPropertyAt 0 value = .ok u := by
  unfold setValue
  cases t.shape <;> simp [unsupported, fail]

theorem setSide_eq_ok {index : Nat} {value : String} :
    t.setSide index value = .ok u ↔ t.shape = .pair ∧ t.setPropertyAt index value = .ok u := by
  unfold setSide
  cases t.shape <;> simp [unsupported, fail]

theorem setVoid_eq_ok {void : Bool} :
    t.setVoid void = .ok u ↔ t.closed = false ∧
      (void = true → t.content = none ∧ t.children = []) ∧ u = { t with void } := by
  simp only [setVoid, bind_eq_ok, refuseClosed_eq_ok, failIf_eq_ok, pure_eq_ok, Except.ok.injEq]
  constructor
  · rintro ⟨_, unclosed, _, empty, rfl⟩
    exact ⟨unclosed, fun wanted => by simpa [wanted] using empty, rfl⟩
  · rintro ⟨unclosed, empty, rfl⟩
    refine ⟨(), unclosed, (), ?_, rfl⟩
    cases void with
    | false => rfl
    | true => simp [empty rfl]

theorem edited_of_apply {op : Operation} {answer : Answer} (h : t.apply op = .ok (answer, u)) :
    Edited t op u := by
  cases op with
  | addProperty p =>
    obtain ⟨_, added, ⟨⟩⟩ := map_eq_ok.1 h
    obtain ⟨_, free, h⟩ := bind_eq_ok.1 added
    split at h
    · cases h
      exact .kept _
    · rename_i fresh
      cases h
      exact .addProperty (refuseShapedProperties_eq_ok.1 free) (by simpa using fresh)
  | removeProperty p =>
    obtain ⟨_, removed, ⟨⟩⟩ := map_eq_ok.1 h
    obtain ⟨_, free, h⟩ := bind_eq_ok.1 removed
    split at h
    · cases h
      exact .removeProperty (refuseShapedProperties_eq_ok.1 free)
    · cases h
      exact .kept _
  | appendContent line =>
    obtain ⟨_, appended, ⟨⟩⟩ := map_eq_ok.1 h
    obtain ⟨_, thawed, h⟩ := bind_eq_ok.1 appended
    obtain ⟨solid, unclosed⟩ := refuseFrozenBody_eq_ok.1 thawed
    split at h
    · cases h
    · rename_i other
      cases h
      refine .appendContent solid unclosed ?_
      unfold item?
      split
      · exact absurd ‹_› (other _)
      · rfl
  | removeContent =>
    obtain ⟨_, removed, ⟨⟩⟩ := map_eq_ok.1 h
    obtain ⟨_, unclosed, ⟨⟩⟩ := bind_eq_ok.1 removed
    exact .removeContent (refuseClosed_eq_ok.1 unclosed)
  | addChild child =>
    obtain ⟨_, added, ⟨⟩⟩ := map_eq_ok.1 h
    obtain ⟨_, thawed, h⟩ := bind_eq_ok.1 added
    obtain ⟨solid, unclosed⟩ := refuseFrozenBody_eq_ok.1 thawed
    split at h
    · rename_i item list
      split at h
      · rename_i named
        cases h
        exact .addChild solid unclosed fun other same => by
          rw [list] at same
          cases same
          exact named
      · cases h
    · rename_i other
      cases h
      exact .addChild solid unclosed fun item same => absurd same (other item)
  | removeChild index =>
    obtain ⟨_, removed, ⟨⟩⟩ := map_eq_ok.1 h
    obtain ⟨_, unclosed, h⟩ := bind_eq_ok.1 removed
    split at h
    · cases h
      exact .kept _
    · rename_i child found
      cases h
      exact .removeChild (refuseClosed_eq_ok.1 unclosed) (List.getElem?_eq_some_iff.1 found).1
  | setVoid void =>
    obtain ⟨_, set, ⟨⟩⟩ := map_eq_ok.1 h
    obtain ⟨unclosed, empty, rfl⟩ := setVoid_eq_ok.1 set
    exact .setVoid unclosed empty
  | close =>
    cases h
    exact .close
  | setValue value =>
    obtain ⟨_, set, ⟨⟩⟩ := map_eq_ok.1 h
    obtain ⟨shape, set⟩ := setValue_eq_ok.1 set
    obtain ⟨p, first, unmarked, rfl⟩ := setPropertyAt_eq_ok.1 set
    exact .setValue shape first unmarked
  | setLeft value =>
    obtain ⟨_, set, ⟨⟩⟩ := map_eq_ok.1 h
    obtain ⟨shape, set⟩ := setSide_eq_ok.1 set
    obtain ⟨p, left, unmarked, rfl⟩ := setPropertyAt_eq_ok.1 set
    exact .setLeft shape left unmarked
  | setRight value =>
    obtain ⟨_, set, ⟨⟩⟩ := map_eq_ok.1 h
    obtain ⟨shape, set⟩ := setSide_eq_ok.1 set
    obtain ⟨p, right, unmarked, rfl⟩ := setPropertyAt_eq_ok.1 set
    exact .setRight shape right unmarked
  | narrowToList =>
    obtain ⟨_, narrowed, ⟨⟩⟩ := map_eq_ok.1 h
    unfold Tag.narrowToList at narrowed
    split at narrowed
    · cases narrowed
    · rename_i body
      simp only [Bool.or_eq_true, not_or, Bool.not_eq_true, Option.isSome_eq_false_iff,
        Option.isNone_iff_eq_none] at body
      split at narrowed
      · cases narrowed
      · rename_i first rest children
        split at narrowed
        · rename_i alike
          cases narrowed
          refine .narrowToList body.1 body.2 (by simp [children]) ?_
          simpa [children] using alike
        · cases narrowed
  | narrowToPair =>
    obtain ⟨_, narrowed, ⟨⟩⟩ := map_eq_ok.1 h
    unfold Tag.narrowToPair at narrowed
    split at narrowed
    · rename_i fits
      cases narrowed
      rw [Bool.and_eq_true] at fits
      exact .narrowToPair fits.1 fits.2
    · cases narrowed
  | narrowToScalar =>
    obtain ⟨_, narrowed, ⟨⟩⟩ := map_eq_ok.1 h
    unfold Tag.narrowToScalar at narrowed
    split at narrowed
    · rename_i fits
      cases narrowed
      rw [Bool.and_eq_true] at fits
      exact .narrowToScalar fits.1 fits.2
    · cases narrowed
  | widen =>
    cases h
    exact .widen

theorem edited_perform (t : Tag) (op : Operation) : Edited t op (t.perform op).2 := by
  unfold perform
  split
  · rename_i answer u done
    exact edited_of_apply done
  · exact .kept op

/-- A tag gets no children but those that it is given. -/
theorem Edited.mem_children {op : Operation} (h : Edited t op u) {child : Tag}
    (mem : child ∈ u.children) : child ∈ t.children ∨ op = .addChild child := by
  cases h with
  | addChild solid unclosed fits =>
    rcases List.mem_append.1 mem with old | new
    · exact .inl old
    · exact .inr (by rw [List.mem_singleton.1 new])
  | removeChild unclosed inside => exact .inl (List.mem_of_mem_eraseIdx mem)
  | _ => exact .inl mem

/-- Nothing renames a tag. -/
theorem Edited.name {op : Operation} (h : Edited t op u) : u.name = t.name := by
  cases h <;> rfl

/-! ### Further down -/

theorem performAt_nil (t : Tag) (op : Operation) : (t.performAt [] op).2 = (t.perform op).2 := rfl

/-- Where the way leads to no tag, nothing is done. -/
theorem performAt_of_none {way : List Nat} (none : t.descendant? way = none) (op : Operation) :
    (t.performAt way op).2 = t := by
  rw [performAt, none]

theorem modify_congr {α : Type} {as : List α} {i : Nat} {f g : α → α}
    (agree : ∀ a, as[i]? = some a → f a = g a) : as.modify i f = as.modify i g := by
  apply List.ext_getElem?
  intro j
  rw [List.getElem?_modify, List.getElem?_modify]
  by_cases here : i = j
  · subst here
    cases found : as[i]? with
    | none => rfl
    | some a => simp [agree a found]
  · simp [here]

/-- An operation further down is one on a child. -/
theorem performAt_cons (t : Tag) (i : Nat) (way : List Nat) (op : Operation) :
    (t.performAt (i :: way) op).2 =
      { t with children := t.children.modify i fun child => (child.performAt way op).2 } := by
  cases found : t.descendant? (i :: way) with
  | none =>
    have kept : t.children.modify i (fun child => (child.performAt way op).2) = t.children := by
      refine (modify_congr fun child here => ?_).trans (List.modify_id i t.children)
      have lost : child.descendant? way = none := by simpa [descendant?, here] using found
      exact performAt_of_none lost op
    rw [performAt_of_none found, kept]
    cases t
    rfl
  | some v =>
    rw [performAt, found]
    have same : t.children.modify i (modifyAt (fun u => (u.perform op).2) way) =
        t.children.modify i fun child => (child.performAt way op).2 := by
      refine modify_congr fun child here => ?_
      have reached : child.descendant? way = some v := by simpa [descendant?, here] using found
      rw [performAt, reached]
    rw [← same]
    rfl

theorem name_performAt (t : Tag) (way : List Nat) (op : Operation) :
    (t.performAt way op).2.name = t.name := by
  cases way with
  | nil => exact (edited_perform t op).name
  | cons i way => rw [performAt_cons]

theorem map_name_modify {children : List Tag} {i : Nat} {f : Tag → Tag}
    (named : ∀ child, (f child).name = child.name) :
    (children.modify i f).map (·.name) = children.map (·.name) := by
  apply List.ext_getElem?
  intro j
  rw [List.getElem?_map, List.getElem?_map, List.getElem?_modify]
  cases children[j]? with
  | none => rfl
  | some child => by_cases here : i = j <;> simp [here, named]

theorem name_modifyAt {f : Tag → Tag} (named : ∀ t, (f t).name = t.name) (way : List Nat) (t : Tag) :
    (modifyAt f way t).name = t.name := by
  cases way with
  | nil => exact named t
  | cons i way => rfl

/-- An edit is one of the tag itself, or leaves it alone but for what becomes of its children, which
keep their names. -/
theorem performAt_keeps {P : Tag → Prop} {way : List Nat} {op : Operation}
    (edited : ∀ u, Edited t op u → P u)
    (below : ∀ children : List Tag, children.map (·.name) = t.children.map (·.name) →
      P { t with children }) : P (t.performAt way op).2 := by
  cases way with
  | nil => exact edited _ (edited_perform t op)
  | cons i way =>
    rw [performAt_cons]
    exact below _ (map_name_modify fun child => name_performAt child way op)

/-! ### Histories -/

/-- Tags as they come about. -/
inductive Built : Tag → Prop
  | new {name : String} {t : Tag} (made : new name = .ok t) : Built t
  | edit {t : Tag} (way : List Nat) (op : Operation)
    (given : ∀ child, op = .addChild child → Built child) (built : Built t) :
    Built (t.performAt way op).2

theorem built_of_name {name : String} (named : name ≠ "") : Built { name } :=
  .new (new_eq_ok.2 ⟨named, rfl⟩)

theorem Built.apply (h : t.Built) (op : Operation)
    (given : ∀ child, op = .addChild child → child.Built)
    (done : ∃ answer, t.apply op = .ok (answer, u)) : u.Built := by
  obtain ⟨answer, done⟩ := done
  have same : (t.performAt [] op).2 = u := by
    rw [performAt_nil, perform, done]
  exact same ▸ h.edit [] op given

/-- The children of such a tag came about in the same way, also after they were edited in place. -/
theorem Built.children (h : t.Built) : ∀ child ∈ t.children, child.Built := by
  induction h with
  | new made =>
    obtain ⟨-, rfl⟩ := new_eq_ok.1 made
    simp
  | @edit t way op given built _ ih =>
    intro child mem
    cases way with
    | nil =>
      rcases (edited_perform t op).mem_children mem with old | rfl
      · exact ih child old
      · exact given child rfl
    | cons i way =>
      rw [performAt_cons] at mem
      obtain ⟨j, hj⟩ := List.getElem?_of_mem mem
      rw [List.getElem?_modify] at hj
      obtain ⟨old, found, rfl⟩ := Option.map_eq_some_iff.1 hj
      have before := ih old (List.mem_of_getElem? found)
      split
      · exact before.edit way op given
      · exact before

theorem Built.descendant {way : List Nat} (h : t.Built) (found : t.descendant? way = some u) :
    u.Built := by
  induction way generalizing t with
  | nil =>
    cases found
    exact h
  | cons i way ih =>
    obtain ⟨child, here, below⟩ := Option.bind_eq_some_iff.1 found
    exact ih (h.children child (List.mem_of_getElem? here)) below

/-- One operation after the other, each at the end of a way. -/
def performAll (t : Tag) (ops : List (List Nat × Operation)) : Tag :=
  ops.foldl (fun t op => (t.performAt op.1 op.2).2) t

theorem Built.performAll {ops : List (List Nat × Operation)} (h : t.Built)
    (given : ∀ op ∈ ops, ∀ child, op.2 = .addChild child → child.Built) :
    (t.performAll ops).Built := by
  induction ops generalizing t with
  | nil => exact h
  | cons op ops ih =>
    obtain ⟨first, rest⟩ := List.forall_mem_cons.1 given
    exact ih (h.edit op.1 op.2 first) rest

/-- What a new tag has, and what operations on a tag and changes of its children keep, every tag in
the tree has. -/
theorem Built.everywhere {P : Tag → Prop} (fresh : ∀ name, P { name })
    (edited : ∀ {t u : Tag} {op : Operation}, Edited t op u → P t → P u)
    (below : ∀ (t : Tag) (children : List Tag), children.length = t.children.length → P t →
      P { t with children })
    (h : t.Built) {way : List Nat} (found : t.descendant? way = some u) : P u := by
  have root {t : Tag} (h : t.Built) : P t := by
    induction h with
    | new made =>
      obtain ⟨-, rfl⟩ := new_eq_ok.1 made
      exact fresh _
    | edit way op _ _ _ ih =>
      refine performAt_keeps (fun u done => edited done ih) fun children named => ?_
      exact below _ children (by simpa using congrArg List.length named) ih
  exact root (h.descendant found)

end TabMarkup.Tag
