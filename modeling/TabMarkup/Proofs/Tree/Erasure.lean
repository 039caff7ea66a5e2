import TabMarkup.Proofs.Writing.Stable

/-!
What the comparison of tags and documents leaves out. Two tags match if they are the same when the
shapes and the closed flags are taken off all tags in them; so matching is an equivalence, and tags
that match have the same text. Documents match if their declarations are equal and their tags match,
one by one.
-/
namespace TabMarkup

theorem Property.widen_eq_widen {p q : Property} : p.widen = q.widen ↔ p.same q = true := by
  simp [Property.widen, Property.same]

theorem sameProperties_iff_widen {ps qs : List Property} :
    sameProperties ps qs = true ↔ ps.map Property.widen = qs.map Property.widen := by
  rw [← List.forall₂_eq_eq_eq, List.forall₂_map_left_iff, List.forall₂_map_right_iff,
    List.forall₂_iff_zip]
  simp [sameProperties, Property.widen_eq_widen]

namespace Tag

mutual
/-- A tag that is generic and open, and so are all tags in it. -/
def erased : Tag → Tag
  | ⟨name, content, void, _, children, properties, _⟩ =>
    { name, content, void, children := erasedAll children, properties }
def erasedAll : List Tag → List Tag
  | [] => []
  | t :: ts => t.erased :: erasedAll ts
end

theorem erasedAll_eq (ts : List Tag) : erasedAll ts = ts.map erased := by
  induction ts with
  | nil => rfl
  | cons t ts ih => rw [erasedAll, ih, List.map_cons]

mutual
/-- Matching is sameness of what is left. -/
theorem same_erased : (t u : Tag) → t.erased.same u.erased = t.matching u
  | ⟨name, content, void, _, children, properties, _⟩, ⟨_, _, _, _, others, _, _⟩ => by
    simp only [erased, same, matching, sameAll_erased children others, beq_self_eq_true, Bool.and_true]
    ac_rfl
theorem sameAll_erased : (ts us : List Tag) →
    sameAll (erasedAll ts) (erasedAll us) = (ts.length == us.length && matchingAll ts us)
  | [], [] => rfl
  | [], _ :: _ => rfl
  | _ :: _, [] => rfl
  | t :: ts, u :: us => by
    have length : ((t :: ts).length == (u :: us).length) = (ts.length == us.length) := by
      simp
    rw [erasedAll, erasedAll, sameAll, same_erased t u, sameAll_erased ts us, matchingAll, length]
    ac_rfl
end

/-! ### Sameness -/

mutual
/-- A tag with its markers as properties like others; markers are all that sameness leaves out. -/
def unmarked : Tag → Tag
  | ⟨name, content, void, closed, children, properties, shape⟩ =>
    ⟨name, content, void, closed, unmarkedAll children, properties.map Property.widen, shape⟩
def unmarkedAll : List Tag → List Tag
  | [] => []
  | t :: ts => t.unmarked :: unmarkedAll ts
end

mutual
theorem same_iff_unmarked : (t u : Tag) → (t.same u = true ↔ t.unmarked = u.unmarked)
  | ⟨name, content, void, closed, children, properties, shape⟩, ⟨_, _, _, _, others, _, _⟩ => by
    simp only [same, unmarked, Bool.and_eq_true, beq_iff_eq, sameAll_iff_unmarked children others,
      sameProperties_iff_widen, Tag.mk.injEq, and_assoc]
theorem sameAll_iff_unmarked : (ts us : List Tag) →
    (sameAll ts us = true ↔ unmarkedAll ts = unmarkedAll us)
  | [], [] => by simp [sameAll]
  | [], _ :: _ => by simp [sameAll, unmarkedAll]
  | _ :: _, [] => by simp [sameAll, unmarkedAll]
  | t :: ts, u :: us => by
    simp only [sameAll, unmarkedAll, Bool.and_eq_true, same_iff_unmarked t u,
      sameAll_iff_unmarked ts us, List.cons.injEq]
end

theorem matching_iff_unmarked {t u : Tag} :
    t.matching u = true ↔ t.erased.unmarked = u.erased.unmarked := by
  rw [← same_erased, same_iff_unmarked]

theorem matching_equivalence : Equivalence fun t u : Tag => t.matching u = true where
  refl t := t.matching_self
  symm h := matching_iff_unmarked.2 (matching_iff_unmarked.1 h).symm
  trans h h' :=
    matching_iff_unmarked.2 ((matching_iff_unmarked.1 h).trans (matching_iff_unmarked.1 h'))

theorem render_of_matching {t u : Tag} (h : t.matching u = true) : t.render = u.render := by
  have ended := t.toList_render_append
  rw [rows_of_matching 0 t u h, ← u.toList_render_append, List.append_cancel_right_eq] at ended
  exact String.toList_inj.1 ended

end Tag

/-- Tags match if they are the same once shapes and closed flags are erased; so matching is an
equivalence, and it preserves the text. Documents match if their declarations are equal and what is
left of their tags is the same, one by one, whatever blanks stand between them and whether one of the
documents is a singleton. -/
theorem matching_iff_erased :
    (∀ t u : Tag, t.matching u = true ↔ t.erased.same u.erased = true) ∧
    (Equivalence fun t u : Tag => t.matching u = true) ∧
    (∀ t u : Tag, t.matching u = true → t.render = u.render) ∧
    ∀ d e : Document, d.matching e = true ↔
      d.doctype = e.doctype ∧ d.version = e.version ∧
        Tag.sameAll (d.entries.tags.map Tag.erased) (e.entries.tags.map Tag.erased) = true := by
  refine ⟨fun t u => by rw [Tag.same_erased], Tag.matching_equivalence,
    fun t u => Tag.render_of_matching, fun d e => ?_⟩
  rw [← Tag.erasedAll_eq, ← Tag.erasedAll_eq, Tag.sameAll_erased, Tag.matchingAll_eq]
  rw [Document.matching_eq_true]
  simp only [Body.matching, Body.tagCount]

end TabMarkup
