import TabMarkup.Proofs.Document.Doctype
import TabMarkup.Proofs.Refinement.Builtin

/-!
Documents as they come about: new, and then edited by one operation after the other. Whether a
document is a singleton is stored beside its body and asked for only when it is narrowed. A singleton
hides its body, so what can still be edited in it is its one tag.
-/
namespace TabMarkup

namespace Body

theorem filterMap_modifyTag (f : Tag → Tag) (n : Nat) (es : List (Option Tag)) :
    (modifyTag f n es).filterMap id = (es.filterMap id).modify n f := by
  induction n, es using modifyTag.induct with
  | case1 => simp [modifyTag]
  | case2 n es ih => simpa [modifyTag] using ih
  | case3 t es => simp [modifyTag]
  | case4 n t es ih => simpa [modifyTag] using ih

theorem tags_modifyTagAt (b : Body) (index : Nat) (f : Tag → Tag) :
    (b.modifyTagAt index f).tags = b.tags.modify index f :=
  filterMap_modifyTag f index b.entries.toList

end Body

namespace Document
variable {d e : Document} {b : Body} {t : Tag}

theorem variant_eq_generic : d.variant = .generic ↔ d.singleton = false := by
  unfold variant
  cases d.singleton <;> simp

theorem variant_eq_singleton : d.variant = .singleton ↔ d.singleton = true := by
  unfold variant
  cases d.singleton <;> simp

theorem body_eq_ok : d.body = .ok b ↔ d.singleton = false ∧ b = d.entries := by
  unfold body
  cases d.singleton <;> simp [refuse, fail, eq_comm]

theorem mainTag_eq_ok : d.mainTag = .ok t ↔ d.singleton = true ∧ d.entries.tagAt? 0 = some t := by
  unfold mainTag
  cases d.singleton <;> cases d.entries.tagAt? 0 <;> simp [refuse, fail]

/-! ### Operations -/

/-- The operations on a document. What is handed out to be changed, the body or the main tag, can be
changed to any other one. -/
inductive Operation where
  | narrow
  | widen
  | setVersion (version : Version)
  | setDoctype (doctype : Doctype) (r : Doctype.Registry) (available : Doctype.Availability)
  | refine
  | editBody (f : Body → Body)
  | editMainTag (f : Tag → Tag)

def apply (d : Document) : Operation → Except Error Document
  | .narrow => d.narrow
  | .widen => .ok d.widen
  | .setVersion version => .ok (d.setVersion version)
  | .setDoctype doctype r available => .ok (d.setDoctype doctype r available).2
  | .refine => Refiner.builtin.documents.refine d
  | .editBody f => d.modifyBody f
  | .editMainTag f => d.modifyMainTag f

/-- The document as an operation leaves it; a refused operation leaves it alone. -/
def perform (d : Document) (op : Operation) : Document :=
  match d.apply op with
  | .ok e => e
  | .error _ => d

def performAll (d : Document) (ops : List Operation) : Document := ops.foldl perform d

/-! ### One tag -/

/-- A singleton has exactly one tag. -/
def Single (d : Document) : Prop := d.singleton = true → d.tagCount = 1

theorem Single.apply (h : d.Single) {op : Operation} (done : d.apply op = .ok e) : e.Single := by
  cases op with
  | narrow =>
    obtain ⟨one, rfl⟩ := narrow_eq_ok.1 done
    exact fun _ => one
  | widen =>
    cases done
    exact nofun
  | setVersion version =>
    cases done
    exact h
  | setDoctype doctype r available =>
    cases done
    rw [setDoctype_eq]
    split <;> exact h
  | refine =>
    cases (Refiner.refine_document d).symm.trans done
    intro single
    rcases Bool.or_eq_true_iff.1 single with before | one
    · exact h before
    · exact beq_iff_eq.1 one
  | editBody f =>
    obtain ⟨b, shown, ⟨⟩⟩ := bind_eq_ok.1 done
    obtain ⟨generic, rfl⟩ := body_eq_ok.1 shown
    intro single
    simp [generic] at single
  | editMainTag f =>
    obtain ⟨t, shown, ⟨⟩⟩ := bind_eq_ok.1 done
    obtain ⟨single, -⟩ := mainTag_eq_ok.1 shown
    intro _
    -- The tag may become another one, but it stays the only one.
    have one : d.entries.tags.length = 1 := h single
    simp [tagCount, Body.tagCount, Body.tags_modifyTagAt, one]

theorem Single.perform (h : d.Single) (op : Operation) : (d.perform op).Single := by
  unfold Document.perform
  split
  · exact h.apply ‹_›
  · exact h

theorem Single.performAll (h : d.Single) (ops : List Operation) : (d.performAll ops).Single := by
  induction ops generalizing d with
  | nil => exact h
  | cons op ops ih => exact ih (h.perform op)

theorem Single.mainTag (h : d.Single) (singleton : d.singleton = true) :
    ∃ t, d.entries.tags = [t] ∧ d.mainTag = .ok t := by
  obtain ⟨t, only⟩ := List.length_eq_one_iff.1 (h singleton)
  exact ⟨t, only, mainTag_eq_ok.2 ⟨singleton, by simp [Body.tagAt?, only]⟩⟩

/-- Narrowing loses nothing of a document. -/
theorem widen_of_narrow (generic : d.variant = .generic) (narrowed : d.narrow = .ok e) :
    e.widen = d := by
  obtain ⟨-, rfl⟩ := narrow_eq_ok.1 narrowed
  rw [widen, ← variant_eq_generic.1 generic]

/-- Whatever was done to a document, it shows either its body or its main tag. It shows the tag if it
is a singleton, and then this is its only one. A document that was narrowed is got back by widening. -/
theorem shows_performAll (entries : Body) (doctype : Doctype) (version : Version)
    (ops : List Operation) :
    ∃ d, performAll { entries, doctype, version } ops = d ∧
      (d.variant = .generic ∧ d.body = .ok d.entries ∧ (∀ t, d.mainTag ≠ .ok t) ∨
        d.variant = .singleton ∧ (∀ b, d.body ≠ .ok b) ∧
          ∃ t, d.entries.tags = [t] ∧ d.mainTag = .ok t) ∧
      (d.variant = .generic → ∀ e, d.narrow = .ok e → e.widen = d) := by
  have new : Single { entries, doctype, version } := nofun
  have single := new.performAll ops
  refine ⟨_, rfl, ?_, fun generic e => widen_of_narrow generic⟩
  generalize performAll _ ops = d at single
  cases shown : d.singleton with
  | false =>
    refine .inl ⟨variant_eq_generic.2 shown, body_eq_ok.2 ⟨shown, rfl⟩, fun t main => ?_⟩
    cases shown.symm.trans (mainTag_eq_ok.1 main).1
  | true =>
    refine .inr ⟨variant_eq_singleton.2 shown, fun b body => ?_, single.mainTag shown⟩
    cases shown.symm.trans (body_eq_ok.1 body).1

/-- The one tag stands between blank lines, which come back with the body. -/
theorem shows_performAll_blanks :
    ∃ d e, performAll { entries := .empty, doctype := ⟨"default"⟩, version := .current }
        [.editBody .pushBlank, .editBody (·.push { name := "note" }), .editBody .pushBlank] = d ∧
      d.narrow = .ok e ∧ e.mainTag = .ok { name := "note" } ∧ e.widen = d ∧
      d.entries.entries = #[none, some { name := "note" }, none] := by
  obtain ⟨d, rfl, -, undone⟩ := shows_performAll .empty ⟨"default"⟩ .current
    [.editBody .pushBlank, .editBody (·.push { name := "note" }), .editBody .pushBlank]
  exact ⟨_, _, rfl, rfl, rfl, undone rfl _ rfl, rfl⟩

end Document
end TabMarkup
