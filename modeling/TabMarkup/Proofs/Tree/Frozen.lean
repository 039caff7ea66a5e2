import TabMarkup.Proofs.Tree.InPlace
import TabMarkup.Proofs.Tree.Promise

/-!
What an operation does not change. One that is refused, or that finds nothing to do, changes nothing.
Once a tag is closed, its name, its void flag, its content and its children stay: what can still be
changed is its properties, its shape, and what is further down in children that are open.
-/
namespace TabMarkup.Tag

variable {t u : Tag} {op : Operation}

/-- An error, or an answer that nothing was there to be done. -/
def Idle : Except Error Answer → Prop
  | .error _ => True
  | .ok (.flag false) => True
  | .ok (.text none) => True
  | .ok (.child none) => True
  | .ok _ => False

/-! ### Nothing done -/

theorem kept_of_idle {answer : Answer} (done : t.apply op = .ok (answer, u))
    (idle : Idle (.ok answer)) : u = t := by
  cases op with
  | addProperty p =>
    obtain ⟨_, added, ⟨⟩⟩ := map_eq_ok.1 done
    obtain ⟨_, _, added⟩ := bind_eq_ok.1 added
    split at added <;> cases added
    · rfl
    · cases idle
  | removeProperty p =>
    obtain ⟨_, removed, ⟨⟩⟩ := map_eq_ok.1 done
    obtain ⟨_, _, removed⟩ := bind_eq_ok.1 removed
    split at removed <;> cases removed
    · cases idle
    · rfl
  | removeContent =>
    obtain ⟨_, removed, ⟨⟩⟩ := map_eq_ok.1 done
    obtain ⟨_, _, ⟨⟩⟩ := bind_eq_ok.1 removed
    cases none : t.content with
    | none => cases t; cases none; rfl
    | some old => rw [none] at idle; cases idle
  | removeChild index =>
    obtain ⟨_, removed, ⟨⟩⟩ := map_eq_ok.1 done
    obtain ⟨_, _, removed⟩ := bind_eq_ok.1 removed
    split at removed <;> cases removed
    · rfl
    · cases idle
  | close | widen =>
    cases done
    cases idle
  | _ =>
    obtain ⟨_, _, ⟨⟩⟩ := map_eq_ok.1 done
    cases idle

theorem perform_of_idle (idle : Idle (t.perform op).1) : (t.perform op).2 = t := by
  unfold perform at idle ⊢
  split at idle
  · rename_i answer u done
    exact kept_of_idle done idle
  · rfl

/-! ### Closed tags -/

/-- The body of a closed tag is as it was. -/
structure Frozen (t u : Tag) : Prop where
  name : u.name = t.name
  void : u.void = t.void
  content : u.content = t.content
  closed : u.closed = true

/-- Every operation on the body asks for an open tag. -/
theorem Edited.frozen (h : Edited t op u) (closed : t.closed = true) :
    Frozen t u ∧ u.children = t.children := by
  cases h with
  | appendContent _ unclosed | removeContent unclosed | addChild _ unclosed | removeChild unclosed
  | setVoid unclosed => simp [closed] at unclosed
  | close => exact ⟨⟨rfl, rfl, rfl, rfl⟩, rfl⟩
  | _ => exact ⟨⟨rfl, rfl, rfl, closed⟩, rfl⟩

theorem Frozen.trans {v : Tag} (h : Frozen t u) (later : Frozen u v) : Frozen t v :=
  ⟨later.name.trans h.name, later.void.trans h.void, later.content.trans h.content, later.closed⟩

/-- The operations of a history that are for the child at a place. -/
def forChild (i : Nat) : List (List Nat × Operation) → List (List Nat × Operation)
  | [] => []
  | ([], _) :: ops => forChild i ops
  | (j :: way, op) :: ops => if j = i then (way, op) :: forChild i ops else forChild i ops

theorem frozen_performAt (closed : t.closed = true) (way : List Nat) (op : Operation) :
    Frozen t (t.performAt way op).2 := by
  cases way with
  | nil => exact ((edited_perform t op).frozen closed).1
  | cons i way =>
    rw [performAt_cons]
    exact ⟨rfl, rfl, rfl, closed⟩

theorem frozen_performAll (closed : t.closed = true) (ops : List (List Nat × Operation)) :
    Frozen t (t.performAll ops) := by
  induction ops generalizing t with
  | nil => exact ⟨rfl, rfl, rfl, closed⟩
  | cons op ops ih =>
    have first := frozen_performAt closed op.1 op.2
    exact first.trans (ih first.closed)

/-- A child of a closed tag is changed by what is done to the child. -/
theorem child_performAll (closed : t.closed = true) (ops : List (List Nat × Operation)) (i : Nat) :
    (t.performAll ops).children[i]? = t.children[i]?.map (·.performAll (forChild i ops)) := by
  induction ops generalizing t with
  | nil => simp [performAll, forChild]
  | cons op ops ih =>
    obtain ⟨way, op⟩ := op
    refine (ih (frozen_performAt closed way op).closed).trans ?_
    cases way with
    | nil =>
      have same := ((edited_perform t op).frozen closed).2
      rw [performAt_nil, same]
      rfl
    | cons j way =>
      rw [performAt_cons, List.getElem?_modify]
      cases t.children[i]? with
      | none => rfl
      | some child => by_cases here : j = i <;> simp [forChild, here, performAll]

theorem forChild_of_root {ops : List (List Nat × Operation)} (root : ∀ op ∈ ops, op.1 = []) (i : Nat) :
    forChild i ops = [] := by
  induction ops with
  | nil => rfl
  | cons op ops ih =>
    obtain ⟨way, op⟩ := op
    obtain ⟨rfl, rest⟩ := List.forall_mem_cons.1 root
    exact ih rest

/-- An operation that is refused or finds nothing to do leaves the tag as it was, also when it is
carried out in place. After a tag was closed, no history of operations changes its name, its void
flag, its content or its children: each child is as the operations on the child make it, and without
such operations the children are the same. -/
theorem idle_and_frozen (t : Tag) :
    (∀ op, t.performInPlace op = t.perform op ∧
      (Idle (t.performInPlace op).1 → (t.performInPlace op).2 = t)) ∧
    ∀ ops : List (List Nat × Operation),
      Frozen t (t.close.performAll ops) ∧
      (∀ i : Nat, (t.close.performAll ops).children[i]? =
        t.children[i]?.map (·.performAll (forChild i ops))) ∧
      ((∀ op ∈ ops, op.1 = []) → (t.close.performAll ops).children = t.children) := by
  refine ⟨fun op => ?_, fun ops => ?_⟩
  · rw [performInPlace_eq]
    exact ⟨rfl, perform_of_idle⟩
  · have closed : t.close.closed = true := rfl
    have children := child_performAll closed ops
    obtain ⟨name, void, content, still⟩ := frozen_performAll closed ops
    refine ⟨⟨name, void, content, still⟩, children, fun root => ?_⟩
    apply List.ext_getElem?
    intro i
    rw [children i, forChild_of_root root i]
    exact Option.map_id'

/-- A generic tag has no value to set, and after it was closed its child is neither taken away nor
joined by another. -/
theorem idle_and_frozen_rack :
    let rack : Tag := { name := "rack", children := [{ name := "coat" }] }
    let ops : List (List Nat × Operation) :=
      [([], .setVoid true), ([], .removeChild 0), ([], .narrowToList), ([], .addChild { name := "coat" }),
        ([], .appendContent "full")]
    (Idle (rack.performInPlace (.setValue "1")).1 ∧ (rack.performInPlace (.setValue "1")).2 = rack) ∧
      (∀ op ∈ ops, op.1 = []) ∧ (rack.close.performAll ops).children = rack.children ∧
        (rack.close.performAll ops).variant = .list := by
  intro rack ops
  have idle : Idle (rack.performInPlace (.setValue "1")).1 := trivial
  have root : ∀ op ∈ ops, op.1 = [] := by simp [ops]
  exact ⟨⟨idle, ((idle_and_frozen rack).1 _).2 idle⟩, root, ((idle_and_frozen rack).2 ops).2.2 root, rfl⟩

/-- What a tag is when it is closed, it stays: the void flag is not turned any more. -/
theorem Meant.performAll (h : t.Meant) (orderly : t.Orderly) (closed : t.closed = true)
    (ops : List (List Nat × Operation)) : (t.performAll ops).Meant := by
  induction ops generalizing t with
  | nil => exact h
  | cons op ops ih =>
    have after := orderly.performAt op.1 op.2
    refine ih ?_ after (frozen_performAt closed op.1 op.2).closed
    rw [after.meant_iff, agrees_performAt_iff (orderly.meant_iff.1 h)]
    rintro ⟨-, void, u, -, done, -⟩
    have unclosed := (setVoid_eq_ok.1 done).1
    simp [closed] at unclosed

end TabMarkup.Tag
