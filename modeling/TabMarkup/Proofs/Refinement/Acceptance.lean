import TabMarkup.Proofs.Reading.Alongside
import TabMarkup.Proofs.Reading.Contexts
import TabMarkup.Proofs.Tree.Editing

/-!
Which texts are accepted under rules for tags. A parent is refined with every child that it is given,
while it is still open, so what rules make of open tags is closed under another name, or is given more
children and content. Rules that leave open tags open, under their names and with their content, accept
what is accepted without them, whatever they make of closed tags; others need not.
-/
namespace TabMarkup

namespace Tag
variable {t : Tag}

/-- The tag takes content, and children of every name. -/
structure Receptive (t : Tag) : Prop where
  unclosed : t.closed = false
  solid : t.void = false
  unlisted : t.item? = none

namespace Receptive

theorem shape_ne (h : t.Receptive) (item : String) : t.shape ≠ .list item := by
  intro list
  have listed := h.unlisted
  simp [item?, list] at listed

theorem addChild (h : t.Receptive) (child : Tag) :
    t.addChild child = .ok { t with children := t.children ++ [child] } := by
  have thawed : t.refuseFrozenBody = .ok () := refuseFrozenBody_eq_ok.2 ⟨h.solid, h.unclosed⟩
  simp only [Tag.addChild, thawed, ok_bind]
  split
  · exact absurd ‹_› (h.shape_ne _)
  · rfl

theorem appendContent (h : t.Receptive) (line : String) :
    t.appendContent line = .ok { t with content := some (joinLine t.content line) } := by
  have thawed : t.refuseFrozenBody = .ok () := refuseFrozenBody_eq_ok.2 ⟨h.solid, h.unclosed⟩
  simp only [Tag.appendContent, thawed, ok_bind]
  split
  · exact absurd ‹_› (h.shape_ne _)
  · rfl

end Receptive

theorem Built.close (h : t.Built) : t.close.Built := h.apply .close nofun ⟨_, rfl⟩

/-- A tag that was opened and is being filled. -/
structure Open (t : Tag) : Prop extends Receptive t where
  built : t.Built

namespace Open

theorem new {name : String} (made : new name = .ok t) : t.Open := by
  have built : t.Built := .new made
  obtain ⟨-, rfl⟩ := new_eq_ok.1 made
  exact ⟨⟨rfl, rfl, rfl⟩, built⟩

theorem addProperty {u : Tag} {p : Property} {added : Bool} (h : t.Open)
    (done : t.addProperty p = .ok (added, u)) : u.Open := by
  have built : u.Built := h.built.apply (.addProperty p) nofun
    ⟨.flag added, by simp [Tag.apply, done, Except.map]⟩
  obtain ⟨_, free, done⟩ := bind_eq_ok.1 done
  split at done <;> cases done
  · exact h
  · exact ⟨⟨h.unclosed, h.solid, h.unlisted⟩, built⟩

theorem addChild (h : t.Open) {child : Tag} (complete : child.Built) :
    ({ t with children := t.children ++ [child] } : Tag).Open := by
  refine ⟨⟨h.unclosed, h.solid, h.unlisted⟩, ?_⟩
  refine h.built.apply (.addChild child) ?_ ⟨.done, ?_⟩
  · rintro _ ⟨⟩
    exact complete
  · simp [Tag.apply, h.toReceptive.addChild child, Except.map]

theorem appendContent (h : t.Open) (line : String) :
    ({ t with content := some (joinLine t.content line) } : Tag).Open := by
  refine ⟨⟨h.unclosed, h.solid, h.unlisted⟩, ?_⟩
  exact h.built.apply (.appendContent line) nofun
    ⟨.done, by simp [Tag.apply, h.toReceptive.appendContent line, Except.map]⟩

end Open
end Tag

/-- Rules that never fail on tags as they come about, and for which a tag that has children and is still
open stays open, with its name and its content. What they make of it otherwise, and of tags that are
closed, is theirs. -/
structure RuleBook.Unobtrusive (b : RuleBook Tag) : Prop where
  total : ∀ t : Tag, t.Built → ∃ u, b.refine t = .ok u ∧ u.Built
  leaves : ∀ t u : Tag, t.Open → t.children ≠ [] → b.refine t = .ok u →
    u.Receptive ∧ u.name = t.name ∧ u.content = t.content

/-- Rules that never fail and take closed tags only. -/
theorem RuleBook.unobtrusive_of_closed {b : RuleBook Tag}
    (total : ∀ t : Tag, t.Built → ∃ u, b.refine t = .ok u ∧ u.Built)
    (closed : ∀ e ∈ b.rules.entries, ∀ t : Tag, t.closed = false → e.2.accepts t = false) :
    b.Unobtrusive where
  total := total
  leaves t u opened _ refined := by
    have kept : b.refine t = .ok t := refine_eq_self fun e he => closed e he t opened.unclosed
    cases refined.symm.trans kept
    exact ⟨opened.toReceptive, rfl, rfl⟩

theorem RuleBook.unobtrusive_empty : ({} : RuleBook Tag).Unobtrusive :=
  unobtrusive_of_closed (fun t built => ⟨t, rfl, built⟩) nofun

theorem Refiner.unobtrusive_builtin : Refiner.builtin.tags.Unobtrusive := by
  refine RuleBook.unobtrusive_of_closed (fun t built => ?_) Refiner.restrained_builtin.tags
  obtain ⟨u, refined, narrowed⟩ := refine_tag t
  refine ⟨u, refined, ?_⟩
  cases narrowed with
  | list _ makes =>
    exact built.apply .narrowToList nofun ⟨.done, map_eq_ok.2 ⟨_, makes.narrowToList, rfl⟩⟩
  | pair _ makes =>
    exact built.apply .narrowToPair nofun ⟨.done, map_eq_ok.2 ⟨_, makes.narrowToPair, rfl⟩⟩
  | scalar _ makes =>
    exact built.apply .narrowToScalar nofun ⟨.done, map_eq_ok.2 ⟨_, makes.narrowToScalar, rfl⟩⟩
  | kept => exact built

namespace Scan.Setting

/-- Two scans under different rules have the names and the contents of their open tags in common. -/
def acceptance : Likeness where
  opened t u := t.name = u.name ∧ t.content = u.content ∧ t.Open ∧ u.Open
  complete t u := t.Built ∧ u.Built
  body _ _ := True
  document _ _ := True

variable {b b' : RuleBook Tag} {c : Config}

/-- A head makes the same open tag whatever the rules for tags. -/
theorem buildTag_acceptance (head : Head) :
    Leads (fun t u => t = u ∧ t.Open) (buildTag (ruled { tags := b } c) head).result
      (buildTag (ruled { tags := b' } c) head).result := by
  simp only [buildTag, Journaled.result_bind, Journaled.result_lift, Journaled.result_foldl]
  refine Leads.bind (R := fun t u => t = u ∧ t.Open) ?_ ?_
  · intro t made
    refine ⟨t, made, rfl, ?_⟩
    simp only [tag, call, service_ruled, Service.standard, Journaled.result_bind, Journaled.result_note,
      Journaled.result_lift, ok_bind] at made
    exact .new made
  · rintro t _ ⟨rfl, opened⟩
    refine (leads_self (fun _ => rfl) _).bind fun pairs _ same => ?_
    subst same
    refine (leads_self (fun _ => rfl) _).bind fun _ _ _ => ?_
    refine Leads.foldlM ?_ ⟨rfl, opened⟩ pairs
    rintro t _ ⟨rfl, opened⟩ pair u done
    refine ⟨u, done, rfl, ?_⟩
    simp only [addProperty, Journaled.result_bind, Journaled.result_lift, Journaled.result_noteIf,
      Journaled.result_pure, bind_eq_ok, ok_bind, Except.ok.injEq] at done
    obtain ⟨-, -, p, -, p', -, p'', -, added, h, rfl⟩ := done
    exact opened.addProperty h

theorem refineTag_acceptance (h : b.Unobtrusive) (h' : b'.Unobtrusive) {t u : Tag} (built : t.Built)
    (built' : u.Built) :
    Leads acceptance.complete ((ruled { tags := b } c).refineTag t)
      ((ruled { tags := b' } c).refineTag u) := by
  intro v refined
  obtain ⟨v', same, out⟩ := h.total t built
  obtain ⟨w, refined', out'⟩ := h'.total u built'
  cases refined.symm.trans same
  exact ⟨w, refined', out, out'⟩

/-- Under such rules a child can always be added to an open tag. -/
theorem grow_acceptance (h : b.Unobtrusive) {t child : Tag} (opened : t.Open)
    (complete : child.Built) :
    ∃ u, (ruled { tags := b } c).grow t child = .ok u ∧ u.Open ∧ u.name = t.name ∧
      u.content = t.content := by
  have given := opened.addChild complete
  obtain ⟨u, refined, built⟩ := h.total _ given.built
  obtain ⟨receptive, name, content⟩ := h.leaves _ u given (by simp) refined
  have grown : (ruled { tags := b } c).grow t child = .ok u := by
    rw [grow, opened.toReceptive.addChild, ok_bind, service_ruled]
    exact refined
  exact ⟨u, grown, ⟨receptive, built⟩, name, content⟩

theorem alongside_acceptance (h : b.Unobtrusive) (h' : b'.Unobtrusive) :
    (ruled { tags := b } c).Alongside acceptance (ruled { tags := b' } c) where
  doctype := rfl
  version := rfl
  knows := rfl
  config := .self c
  face t u like := ⟨like.1, like.2.1⟩
  openTag markup head parsed := by
    refine (buildTag_acceptance head).bind ?_
    rintro t _ ⟨rfl, opened⟩
    exact leads_ok.2 ⟨rfl, rfl, opened, opened⟩
  voidTag markup head parsed := by
    refine (buildTag_acceptance head).bind ?_
    rintro t _ ⟨rfl, opened⟩
    refine Leads.bind (R := fun v w => v = w ∧ v.Built) ?_ ?_
    · intro v voided
      refine ⟨v, voided, rfl, ?_⟩
      exact opened.built.apply (.setVoid true) nofun
        ⟨.done, by simp [Tag.apply, voided, Except.map]⟩
    · rintro v _ ⟨rfl, built⟩
      exact refineTag_acceptance h h' built.close built.close
  grow t u a b like complete := by
    obtain ⟨named, content, opened, opened'⟩ := like
    obtain ⟨v, grown, still, name, kept⟩ := grow_acceptance h opened complete.1
    obtain ⟨w, grown', still', name', kept'⟩ := grow_acceptance h' opened' complete.2
    rw [grown, grown', leads_ok]
    exact ⟨by rw [name, name', named], by rw [kept, kept', content], still, still'⟩
  line t u like line := by
    obtain ⟨named, content, opened, opened'⟩ := like
    rw [opened.toReceptive.appendContent, opened'.toReceptive.appendContent, leads_ok]
    exact ⟨named, by rw [content], opened.appendContent line, opened'.appendContent line⟩
  close t u like := by
    obtain ⟨-, -, opened, opened'⟩ := like
    exact refineTag_acceptance h h' opened.built.close opened'.built.close
  push _ _ _ _ _ _ := trivial
  skip _ _ _ := trivial
  assemble _ _ _ _ _ := leads_ok.2 trivial

end Scan.Setting

/-! ### Texts -/

namespace Context
variable {b b' : RuleBook Tag}

theorem readText_unobtrusive (h : b.Unobtrusive) (h' : b'.Unobtrusive) (config : Config)
    (name text : String) :
    Leads (fun _ _ => True) ((ruled { tags := b }).readText config name text).result
      ((ruled { tags := b' }).readText config name text).result := by
  intro d read
  have scanned := readText_ruled.1 read
  obtain ⟨e, scanned', -⟩ :=
    (Scan.Setting.alongside_acceptance (c := config) h h').scan trivial text d scanned
  exact ⟨e, readText_ruled.2 scanned', trivial⟩

theorem read_unobtrusive (h : b.Unobtrusive) (h' : b'.Unobtrusive) (r : Reader) (s : Storage) :
    Leads (fun _ _ => True) (r.read (ruled { tags := b }) s).1.result
      (r.read (ruled { tags := b' }) s).1.result := by
  rw [Reader.result_read_text, Reader.result_read_text]
  refine (leads_self (fun _ => rfl) _).bind fun text _ same => ?_
  subst same
  exact readText_unobtrusive h h' _ _ text

theorem parse_unobtrusive (h : b.Unobtrusive) (h' : b'.Unobtrusive) (text : String) :
    Leads (fun _ _ => True) ((ruled { tags := b }).parse text).result
      ((ruled { tags := b' }).parse text).result := by
  have configured (r : Refiner) : (ruled r).config = .ok {} := rfl
  simp only [parse, configured, Journaled.result_bind, Journaled.result_lift, ok_bind]
  exact (leads_self (fun _ => rfl) _).bind fun _ _ _ => readText_unobtrusive h h' _ _ text

/-- Under such rules what is accepted is exactly what is accepted without rules: from a reader of any
source and configuration, and as a text. -/
theorem accepts_ruled_iff (h : b.Unobtrusive) :
    (∀ (r : Reader) (s : Storage), (∃ d, (r.read (ruled { tags := b }) s).1.result = .ok d) ↔
      ∃ d, (r.read empty s).1.result = .ok d) ∧
    ∀ text : String, (∃ d, ((ruled { tags := b }).parse text).result = .ok d) ↔
      ∃ d, (empty.parse text).result = .ok d := by
  have none := RuleBook.unobtrusive_empty
  exact ⟨fun r s => (read_unobtrusive h none r s).exists_iff (read_unobtrusive none h r s),
    fun text => (parse_unobtrusive h none text).exists_iff (parse_unobtrusive none h text)⟩

/-- Rules under which an open tag loses its first child, and a closed one becomes an empty tag of
another name. -/
def sealing : RuleBook Tag where
  rules := Table.insert
    (Table.insert {} "lose" ⟨(!·.closed), fun t => (t.removeChild 0).map Prod.snd⟩)
    "seal" ⟨(·.closed), fun _ => .ok ({ name := "sealed" } : Tag).close⟩

theorem refine_sealing (t : Tag) : sealing.refine t =
    if t.closed then .ok ({ name := "sealed" } : Tag).close
    else .ok (t.perform (.removeChild 0)).2 := by
  have rules : sealing.select t =
      [("seal", (⟨(·.closed), fun _ => .ok ({ name := "sealed" } : Tag).close⟩ : Rule Tag)),
        ("lose", ⟨(!·.closed), fun t => (t.removeChild 0).map Prod.snd⟩)].find?
        fun e => e.2.accepts t := rfl
  rw [RuleBook.refine, rules]
  cases closed : t.closed with
  | true => simp [closed]
  | false =>
    have thawed : t.refuseClosed = .ok () := Tag.refuseClosed_eq_ok.2 closed
    obtain ⟨old, done⟩ : ∃ old, t.removeChild 0 = .ok old := by
      unfold Tag.removeChild
      split <;> exact ⟨_, bind_eq_ok.2 ⟨(), thawed, rfl⟩⟩
    simp [closed, done, Tag.perform, Tag.apply, Except.map]

theorem unobtrusive_sealing : sealing.Unobtrusive where
  total t built := by
    rw [refine_sealing]
    split
    · exact ⟨_, rfl, (Tag.built_of_name (by decide)).close⟩
    · exact ⟨_, rfl, built.edit [] (.removeChild 0) nofun⟩
  leaves t u opened _ refined := by
    rw [refine_sealing, opened.unclosed] at refined
    have edited := Tag.edited_perform t (.removeChild 0)
    rw [Except.ok.inj refined] at edited
    cases edited with
    | kept => exact ⟨opened.toReceptive, rfl, rfl⟩
    | removeChild => exact ⟨⟨opened.unclosed, opened.solid, opened.unlisted⟩, rfl, rfl⟩

/-- A text in which a parent gets a second child and a line of content after its first one. -/
def twoChildren : String :=
  "<!DOCTYPE skd default>\n<!SKD version=\"0.2\">\n<a>\n\t<b />\n\t<c />\n\tx\n</a>\n"

theorem accepts_twoChildren :
    sealing.Unobtrusive ∧ ∃ d, ((ruled { tags := sealing }).parse twoChildren).result = .ok d :=
  ⟨unobtrusive_sealing, ((accepts_ruled_iff unobtrusive_sealing).2 twoChildren).2 ⟨_, rfl⟩⟩

/-- A rule that closes every tag, which never fails. -/
def closing : RuleBook Tag where
  rules := Table.insert {} "close" ⟨fun _ => true, fun t => .ok t.close⟩

/-- Under it a parent is closed with its first child, and the text is not accepted. -/
theorem refuses_twoChildren :
    (∀ t : Tag, closing.refine t = .ok t.close) ∧ (∃ d, (empty.parse twoChildren).result = .ok d) ∧
      ¬ ∃ d, ((ruled { tags := closing }).parse twoChildren).result = .ok d := by
  refine ⟨fun _ => rfl, ⟨_, rfl⟩, ?_⟩
  rintro ⟨d, parsed⟩
  have refused : ((ruled { tags := closing }).parse twoChildren).result.toOption = none := rfl
  rw [parsed] at refused
  cases refused

end Context
end TabMarkup
