import TabMarkup.Proofs.Writing.Stable

/-!
Refinement from the leaves up, of a document that was read without any rules: each tag once,
after its children, and the document last. Rules that only reshape never fail here, and what they
make of a document matches it and has its text.
-/
namespace TabMarkup

namespace RuleBook

mutual
/-- Refines a tree: the children in their order, and then the tag itself. -/
def refineTree (b : RuleBook Tag) : Tag → Except Error Tag
  | ⟨name, content, void, closed, children, properties, shape⟩ => do
    let children ← refineTrees b children
    b.refine ⟨name, content, void, closed, children, properties, shape⟩
def refineTrees (b : RuleBook Tag) : List Tag → Except Error (List Tag)
  | [] => return []
  | t :: ts => do
    let t ← refineTree b t
    let ts ← refineTrees b ts
    return t :: ts
end

/-- A blank line has nothing to refine. -/
def refineEntry (b : RuleBook Tag) : Option Tag → Except Error (Option Tag)
  | none => return none
  | some t => do return some (← b.refineTree t)

def refineBody (b : RuleBook Tag) (body : Body) : Except Error Body := do
  return ⟨(← body.entries.toList.mapM b.refineEntry).toArray⟩

theorem refineTree_eq (b : RuleBook Tag) (t : Tag) :
    b.refineTree t =
      b.refineTrees t.children >>= fun children => b.refine { t with children } := by
  cases t
  rfl

theorem refineTrees_append (b : RuleBook Tag) (ts us : List Tag) :
    b.refineTrees (ts ++ us) = do
      let ts ← b.refineTrees ts
      let us ← b.refineTrees us
      return ts ++ us := by
  induction ts with
  | nil =>
    simp only [List.nil_append, refineTrees, pure_eq_ok, ok_bind]
    cases b.refineTrees us <;> rfl
  | cons t ts ih => simp [refineTrees, ih]

end RuleBook

/-- Refines the tags of a document, and then the document. -/
def Refiner.refine (r : Refiner) (d : Document) : Except Error Document := do
  let entries ← r.tags.refineBody d.entries
  r.documents.refine { d with entries }

/-! ### Rules that only reshape -/

section Reshaping
variable {g : Scan.Setting}

mutual
theorem RuleBook.refineTree_matching (hg : g.Reshaping) : (t : Tag) →
    ∃ u, g.context.refiner.tags.refineTree t = .ok u ∧ t.matching u = true
  | ⟨name, content, void, closed, children, properties, shape⟩ => by
    obtain ⟨us, refined, length, alike⟩ := RuleBook.refineTrees_matching hg children
    obtain ⟨shape', reshaped⟩ := hg.tags ⟨name, content, void, closed, us, properties, shape⟩
    refine ⟨_, by rw [refineTree, refined, ok_bind]; exact reshaped, ?_⟩
    simp [Tag.matching, length, alike]
theorem RuleBook.refineTrees_matching (hg : g.Reshaping) : (ts : List Tag) →
    ∃ us, g.context.refiner.tags.refineTrees ts = .ok us ∧ ts.length = us.length ∧
      Tag.matchingAll ts us = true
  | [] => ⟨[], rfl, rfl, rfl⟩
  | t :: ts => by
    obtain ⟨u, head, same⟩ := RuleBook.refineTree_matching hg t
    obtain ⟨us, tail, length, alike⟩ := RuleBook.refineTrees_matching hg ts
    exact ⟨u :: us, by simp [refineTrees, head, tail], by simp [length],
      by simp [Tag.matchingAll, same, alike]⟩
end

theorem RuleBook.refineEntries_alike (hg : g.Reshaping) (es : List (Option Tag)) :
    ∃ fs, es.mapM g.context.refiner.tags.refineEntry = .ok fs ∧ Body.Alike es fs := by
  induction es with
  | nil => exact ⟨[], rfl, .nil⟩
  | cons e es ih =>
    obtain ⟨fs, tail, alike⟩ := ih
    cases e with
    | none => exact ⟨none :: fs, by simp [refineEntry, tail], .cons .none alike⟩
    | some t =>
      obtain ⟨u, refined, same⟩ := RuleBook.refineTree_matching hg t
      exact ⟨some u :: fs, by simp [refineEntry, refined, tail], .cons (.some same) alike⟩

/-- Rules that only reshape refine every document, into one that matches it and has its text. -/
theorem Refiner.refine_matching (hg : g.Reshaping) (d : Document) :
    ∃ e, g.context.refiner.refine d = .ok e ∧ d.matching e = true ∧ e.render = d.render := by
  obtain ⟨entries, refined, alike⟩ :=
    RuleBook.refineEntries_alike hg d.entries.entries.toList
  obtain ⟨singleton, narrowed⟩ := hg.documents { d with entries := ⟨entries.toArray⟩ }
  have same : d.entries.matching ⟨entries.toArray⟩ = true := Body.Alike.matching alike
  refine ⟨_, by rw [refine, RuleBook.refineBody, refined]; exact narrowed, ?_, ?_⟩
  · exact Document.matching_eq_true.2 ⟨rfl, rfl, same⟩
  · exact Document.render_of_rows rfl rfl (alike.rows 0).symm

end Reshaping
end TabMarkup
