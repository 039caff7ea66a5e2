import Mathlib.Data.List.Forall2
import TabMarkup.Document.Basic

/-!
When tags, bodies and documents match. They match themselves. The shape of a tag has no part in
this, nor in the text of the tag, and neither does whether a document is a singleton.
-/
namespace TabMarkup

theorem sameProperties_eq_true {ps qs : List Property} :
    sameProperties ps qs = true ↔
      ps.map (fun p => (p.name, p.value)) = qs.map fun q => (q.name, q.value) := by
  induction ps generalizing qs with
  | nil => cases qs <;> simp [sameProperties]
  | cons p ps ih =>
    cases qs with
    | nil => simp [sameProperties]
    | cons q qs =>
      have rest := @ih qs
      simp only [sameProperties, Bool.and_eq_true, beq_iff_eq] at rest
      simp only [sameProperties, List.length_cons, List.zip_cons_cons, List.all_cons, Bool.and_eq_true,
        beq_iff_eq, Nat.add_right_cancel_iff, List.map_cons, List.cons.injEq, ← rest, Property.same,
        Prod.mk.injEq]
      constructor
      · rintro ⟨length, same, all⟩
        exact ⟨same, length, all⟩
      · rintro ⟨same, length, all⟩
        exact ⟨length, same, all⟩

@[simp] theorem sameProperties_self (ps : List Property) : sameProperties ps ps = true :=
  sameProperties_eq_true.2 rfl

namespace Tag

theorem matchingAll_eq (ts us : List Tag) :
    matchingAll ts us = (ts.zip us).all fun p => p.1.matching p.2 := by
  induction ts generalizing us with
  | nil => cases us <;> rfl
  | cons t ts ih =>
    cases us with
    | nil => rfl
    | cons u us => rw [matchingAll, ih, List.zip_cons_cons, List.all_cons]

theorem matching_eq_true {t u : Tag} :
    t.matching u = true ↔ t.name = u.name ∧ t.void = u.void ∧ t.content = u.content ∧
      sameProperties t.properties u.properties = true ∧ t.children.length = u.children.length ∧
      ∀ p ∈ t.children.zip u.children, p.1.matching p.2 = true := by
  cases t
  simp only [matching, Bool.and_eq_true, beq_iff_eq, matchingAll_eq, List.all_eq_true, and_assoc]

mutual
@[simp] theorem matching_self : (t : Tag) → t.matching t = true
  | ⟨_, _, _, _, children, properties, _⟩ => by
    simp [matching, matchingAll_self children]
@[simp] theorem matchingAll_self : (ts : List Tag) → matchingAll ts ts = true
  | [] => rfl
  | t :: ts => by rw [matchingAll, matching_self t, matchingAll_self ts, Bool.and_self]
end

theorem matching_reshaped (t u : Tag) (shape : Shape) :
    t.matching { u with shape } = t.matching u := by
  cases t
  simp only [matching]

theorem render_reshaped (t : Tag) (shape : Shape) : ({ t with shape } : Tag).render = t.render := by
  cases t
  simp only [render, write]

end Tag

namespace Body
variable {b c : Body}

theorem matching_eq_true :
    b.matching c = true ↔ List.Forall₂ (fun t u => t.matching u = true) b.tags c.tags := by
  simp [matching, tagCount, List.forall₂_iff_zip]

@[simp] theorem matching_self (b : Body) : b.matching b = true :=
  matching_eq_true.2 (List.forall₂_same.2 fun t _ => t.matching_self)

end Body

theorem Document.matching_narrowed (d : Document) (singleton : Bool) :
    d.matching { d with singleton } = true :=
  matching_eq_true.2 ⟨rfl, rfl, d.entries.matching_self⟩

end TabMarkup
