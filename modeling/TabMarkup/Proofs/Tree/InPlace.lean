import TabMarkup.Tree.InPlace
import TabMarkup.Proofs.Tree.Editing

/-!
Operations in place come out as the operations on values do. So an operation makes all its checks
before its first write: on values there is nothing to leave behind when it is refused.
-/
namespace TabMarkup.Tag

namespace Work
variable {α β : Type} {t : Tag}

theorem bind_apply (x : Work α) (f : α → Work β) :
    (x >>= f) t = match x t with
      | (.ok a, u) => f a u
      | (.error e, u) => (.error e, u) := by
  change (ExceptT.bindCont f (x t).1) (x t).2 = _
  rcases x t with ⟨_ | _, u⟩ <;> rfl

theorem check_apply (guard : Tag → Except Error Unit) : check guard t = (guard t, t) := rfl
theorem read_apply (f : Tag → α) : read f t = (.ok (f t), t) := rfl

theorem writeAt_apply (t : Tag) (i : Nat) (value : String) :
    writeAt i value t = match t.setPropertyAt i value with
      | .ok u => (.ok (), u)
      | .error e => (.error e, t) := by
  simp only [writeAt, bind_apply, read_apply, setPropertyAt]
  cases t.properties[i]? with
  | none => rfl
  | some p =>
    simp only [Property.setValue, bind_apply, check_apply]
    cases p.refuseMarker "set_value" <;> rfl

theorem writeSide_apply (t : Tag) (i : Nat) (value : String) :
    writeSide i value t = match t.setSide i value with
      | .ok u => (.ok (), u)
      | .error e => (.error e, t) := by
  simp only [writeSide, bind_apply, read_apply, setSide]
  cases t.shape with
  | pair => exact writeAt_apply t i value
  | _ => rfl

end Work

open Work in
theorem performInPlace_eq (t : Tag) (op : Operation) : t.performInPlace op = t.perform op := by
  unfold performInPlace perform
  cases op with
  | addProperty p =>
    simp only [apply, addProperty, work, bind_apply, check_apply]
    cases t.refuseShapedProperties "add_property" with
    | error e => rfl
    | ok _ =>
      simp only [read_apply, ok_bind]
      cases t.hasProperty p <;> rfl
  | removeProperty p =>
    simp only [apply, removeProperty, work, bind_apply, check_apply]
    cases t.refuseShapedProperties "remove_property" with
    | error e => rfl
    | ok _ =>
      simp only [read_apply, ok_bind]
      cases t.hasProperty p <;> rfl
  | appendContent line =>
    simp only [apply, appendContent, work, bind_apply, check_apply]
    cases t.refuseFrozenBody with
    | error e => rfl
    | ok _ =>
      obtain ⟨name, content, void, closed, children, properties, shape⟩ := t
      cases shape <;> rfl
  | removeContent =>
    simp only [apply, removeContent, work, bind_apply, check_apply]
    cases t.refuseClosed <;> rfl
  | addChild child =>
    simp only [apply, addChild, work, bind_apply, check_apply]
    cases t.refuseFrozenBody with
    | error e => rfl
    | ok _ =>
      obtain ⟨name, content, void, closed, children, properties, shape⟩ := t
      cases shape with
      | list item =>
        simp only [read_apply, item?, bind_apply, check_apply, ok_bind]
        by_cases named : child.name = item <;> simp [named, failIf] <;> rfl
      | _ => rfl
  | removeChild index =>
    simp only [apply, removeChild, work, bind_apply, check_apply]
    cases t.refuseClosed with
    | error e => rfl
    | ok _ =>
      simp only [read_apply, ok_bind]
      cases t.children[index]? <;> rfl
  | setVoid void =>
    simp only [apply, setVoid, work, bind_apply, check_apply]
    cases t.refuseClosed with
    | error e => rfl
    | ok _ =>
      simp only [ok_bind]
      cases failIf (void && (t.content.isSome || !t.children.isEmpty)) (.node (.notEmpty t.name)) <;> rfl
  | close => rfl
  | setValue value =>
    simp only [apply, setValue, work, bind_apply, read_apply]
    cases t.shape with
    | scalar =>
      simp only [ne_eq, not_true_eq_false, if_false, bind_apply, writeAt_apply]
      cases t.setPropertyAt 0 value <;> rfl
    | _ => rfl
  | setLeft value =>
    simp only [apply, setLeft, work, bind_apply, writeSide_apply]
    cases t.setSide 0 value <;> rfl
  | setRight value =>
    simp only [apply, setRight, work, bind_apply, writeSide_apply]
    cases t.setSide 1 value <;> rfl
  | narrowToList =>
    simp only [apply, narrowToList, work, bind_apply, read_apply]
    cases t.void || t.content.isSome with
    | true => rfl
    | false =>
      obtain ⟨name, content, void, closed, children, properties, shape⟩ := t
      cases children with
      | nil => rfl
      | cons first rest =>
        have alike : (first :: rest).any (·.name != first.name) = !rest.all (·.name == first.name) := by
          simp [bne, List.not_all_eq_any_not]
        simp only [Bool.false_eq_true, if_false, bind_apply, read_apply, List.head?_cons, alike]
        cases rest.all (·.name == first.name) <;> rfl
  | narrowToPair =>
    simp only [apply, narrowToPair, work, bind_apply, read_apply]
    cases t.void && t.hasPairProperties <;> rfl
  | narrowToScalar =>
    simp only [apply, narrowToScalar, work, bind_apply, read_apply]
    cases t.void && t.hasScalarProperties <;> rfl
  | widen => rfl

end TabMarkup.Tag
