import TabMarkup.Proofs.Writing.RoundTrip

/-!
Settled documents. What the standard context makes of a document has been made of it already: its tags
are closed and have the shapes that the built-in rules give them, and it is a singleton if it has one
tag. Such a document is what its text is read as, shapes included.
-/
namespace TabMarkup

/-- A closed tag of the shape that the built-in rules give it. -/
structure Tag.Settled (t : Tag) : Prop extends t.Writable where
  closed : t.closed = true
  unmarked : ∀ p ∈ t.properties, p.marker = false
  shaped : Refiner.builtin.tags.refine { t with shape := .generic } = .ok t

structure Document.Settled (d : Document) : Prop where
  stylesheet : IsStylesheet d.doctype.stylesheet
  version : '"' ∉ d.version.number.toList ∧ '\n' ∉ d.version.number.toList
  tags : ∀ t ∈ d.entries.tags, t.Everywhere (fun _ t => t.Settled) 0
  dense : d.entries.Dense
  single : d.singleton = (d.tagCount == 1)

theorem Document.Settled.writable {d : Document} (h : d.Settled) : d.Writable :=
  ⟨h.stylesheet, h.version, fun t ht => (h.tags t ht).imp fun _ _ settled => settled.toWritable⟩

namespace Tag
variable {t : Tag}

/-- The pairs that are written are the properties that are read. -/
theorem ofPairs_pairs (h : t.Legible) (unmarked : ∀ p ∈ t.properties, p.marker = false) :
    Property.ofPairs t.pairs = t.properties := by
  rw [Property.ofPairs, eraseDups_of_nodup h.distinct, Tag.pairs, List.map_map]
  refine (List.map_congr_left fun p mem => ?_).trans (List.map_id _)
  obtain ⟨v, valued⟩ := Option.isSome_iff_exists.1 (h.valued p mem)
  have plain := unmarked p mem
  cases p
  simp_all [Property.pair]

theorem reread_settled (c : Config) {k : Nat} (h : t.Everywhere (fun _ t => t.Settled) k) :
    t.reread (.refining c) = t := by
  induction h with
  | @intro k t here inside ih =>
    have legible := here.legible
    have faithful := here.faithful
    have name := (name_reread legible).2 faithful.name
    have pairs := (respellPairs_eq_self t).2 faithful.key
    have content := rereadContent_eq_self.2 faithful.content
    have children : t.children.map (reread (.refining c)) = t.children :=
      (List.map_congr_left ih).trans (List.map_id _)
    have shaped : (Scan.Setting.refining c).refineTag { t with shape := .generic } = .ok t := here.shaped
    rw [reread_eq, ← name, pairs, ofPairs_pairs legible here.unmarked, content, children, ← here.closed,
      refined, shaped]
    rfl

end Tag

theorem Body.Dense.ext {b c : Body} (hb : b.Dense) (hc : c.Dense) (same : b.tags = c.tags) :
    b = c := by
  have all : b.entries.toList = b.tags.map some := hb
  have all' : c.entries.toList = c.tags.map some := hc
  rw [same, ← all'] at all
  exact congrArg Body.mk (Array.toList_inj.1 all)

namespace Document
variable {d : Document}

theorem body_reached (h : d.Settled) (c : Config) (skip : c.blankLines = .skip) :
    (d.reached (.refining c)).body = d.entries := by
  refine (dense_reached skip d).ext h.dense ?_
  rw [(reached_keeps (.refining c) d).2.2]
  exact (List.map_congr_left fun t ht => Tag.reread_settled c (h.tags t ht)).trans (List.map_id _)

/-- A settled document within the limits is what its text is parsed as. -/
theorem parse_render_of_settled (h : d.Settled) (within : Config.HoldsDocument {} d) :
    (Context.standard.parse d.render).result = .ok d := by
  have legible := h.writable.legible
  have readable : ∀ t ∈ d.entries.tags, t.Everywhere (fun _ t => t.Readable) 0 := fun t ht =>
    (h.tags t ht).imp fun _ _ settled => settled.faithful.readable settled.legible
  obtain ⟨singleton, scanned⟩ := scan_render (Scan.Setting.stock_refining {})
    (Scan.Setting.reshaping_refining {}) nofun legible within readable
  rw [body_reached h {} rfl] at scanned
  have single := Scan.singleton_of_scan_refining scanned
  have same : d = { entries := d.entries, doctype := d.doctype, version := d.version, singleton } := by
    cases d
    simp only [Document.mk.injEq, true_and]
    exact h.single.trans single.symm
  rw [← same] at scanned
  exact Context.parse_standard.2 ⟨within.size, scanned⟩

end Document
end TabMarkup
