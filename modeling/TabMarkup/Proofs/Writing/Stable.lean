import TabMarkup.Proofs.Writing.Accepted

/-!
Stable documents: which of the documents that were accepted are the same, and have the same
text, when they are written and read again.
-/
namespace TabMarkup

namespace Tag

theorem pairs_of_sameProperties {ps qs : List Property} (h : sameProperties ps qs = true) :
    ps.map Property.pair = qs.map Property.pair := by
  have shown (ps : List Property) :
      ps.map Property.pair = (ps.map fun p => (p.name, p.value)).map fun q => (q.1, q.2.getD "") := by
    rw [List.map_map]
    rfl
  rw [shown ps, shown qs, sameProperties_eq_true.1 h]

mutual
theorem rows_of_matching (k : Nat) : (t u : Tag) → t.matching u = true → t.rows k = u.rows k
  | ⟨name, content, void, _, children, properties, _⟩, ⟨_, _, _, _, others, properties', _⟩, h => by
    simp only [matching, Bool.and_eq_true, beq_iff_eq] at h
    obtain ⟨⟨⟨⟨⟨rfl, rfl⟩, rfl⟩, same⟩, length⟩, inner⟩ := h
    rw [rows, rows, pairs_of_sameProperties same,
      rowsAll_of_matching (k + 1) children others length inner]
theorem rowsAll_of_matching (k : Nat) : (ts us : List Tag) → ts.length = us.length →
    matchingAll ts us = true → rowsAll k ts = rowsAll k us
  | [], [], _, _ => rfl
  | t :: ts, u :: us, length, h => by
    simp only [matchingAll, Bool.and_eq_true] at h
    rw [rowsAll, rowsAll, rows_of_matching k t u h.1,
      rowsAll_of_matching k ts us (Nat.succ.inj length) h.2]
end

end Tag

namespace Body

/-- Entries in the same places, with matching tags. -/
def Alike : List (Option Tag) → List (Option Tag) → Prop :=
  List.Forall₂ (Option.Rel fun t u => t.matching u = true)

theorem Alike.rows {es fs : List (Option Tag)} (h : Alike es fs) (i : Nat) :
    (es.zipIdx i).flatMap entryRows = (fs.zipIdx i).flatMap entryRows := by
  induction h generalizing i with
  | nil => rfl
  | @cons e f es fs same rest ih =>
    rw [List.zipIdx_cons, List.flatMap_cons, ih, List.zipIdx_cons, List.flatMap_cons]
    cases same with
    | some matched =>
      congr 1
      exact Tag.rows_of_matching 0 _ _ matched
    | none => rfl

variable {b c : Body}

theorem Alike.matching (h : Alike b.entries.toList c.entries.toList) : b.matching c = true :=
  matching_eq_true.2 (List.rel_filterMap (fun _ _ same => same) h)

/-- Without blank lines it is the tags alone that are in the same places. -/
theorem Dense.alike (hb : b.Dense) (hc : c.Dense) (h : b.matching c = true) :
    Alike b.entries.toList c.entries.toList := by
  have all : b.entries.toList = b.tags.map some := hb
  have all' : c.entries.toList = c.tags.map some := hc
  rw [all, all', Alike, List.forall₂_map_left_iff, List.forall₂_map_right_iff]
  exact (matching_eq_true.1 h).imp fun _ _ same => .some same

end Body

namespace Document
variable {d e : Document}

theorem render_of_rows (doctype : e.doctype = d.doctype) (version : e.version = d.version)
    (rows : e.entries.rows = d.entries.rows) : e.render = d.render := by
  apply String.toList_inj.1
  rw [toList_render, toList_render, Document.rows, Document.rows, doctype, version, rows]

/-- Matching documents without blank lines have the same text. -/
theorem render_of_matching (hd : d.entries.Dense) (he : e.entries.Dense)
    (h : d.matching e = true) : e.render = d.render := by
  obtain ⟨doctype, version, entries⟩ := matching_eq_true.1 h
  exact render_of_rows doctype.symm version.symm ((hd.alike he entries).rows 0).symm

end Document

namespace Context

/-- What the standard context has accepted is accepted again, is the same and has the same text
exactly if its tags are faithful: none has the legacy name, and there is nothing at the ends of
names, keys and lines of content that reading cuts off. -/
theorem parse_render_iff {text : String} {d : Document} (h : (standard.parse text).result = .ok d)
    (small : d.render.utf8ByteSize ≤ ({} : Config).maxSize) :
    (∃ e, (standard.parse d.render).result = .ok e ∧ d.matching e = true ∧ e.render = d.render) ↔
      ∀ t ∈ d.entries.tags, t.Everywhere (fun _ t => t.Faithful) 0 := by
  have stock := Scan.Setting.stock_refining {}
  have reshaping := Scan.Setting.reshaping_refining {}
  obtain ⟨legible, holds, dense⟩ := Document.sound_of_scan stock reshaping (parse_standard.1 h).2
  have lenient : (Scan.Setting.refining {}).config.strictDoctypes = true →
      (Scan.Setting.refining {}).knows d.doctype = true := fun asked => by cases asked
  rw [← Document.scan_render_iff stock reshaping lenient legible ⟨small, holds⟩]
  constructor
  · rintro ⟨e, read, same, -⟩
    obtain ⟨-, scanned⟩ := parse_standard.1 read
    obtain ⟨-, -, dense'⟩ := Document.sound_of_scan stock reshaping scanned
    exact ⟨e, scanned, same, dense'⟩
  · rintro ⟨e, scanned, same, dense'⟩
    exact ⟨e, parse_standard.2 ⟨small, scanned⟩, same,
      Document.render_of_matching (dense rfl) (dense' rfl) same⟩

/-- A void tag of the legacy name is written with a space behind the name, and is not read as a
tag again. -/
theorem parse_render_legacy :
    ∃ d, (standard.parse "<!DOCTYPE skd default>\n<!SKD version=\"0.2\">\n\n<SKD/>\n").result = .ok d ∧
      ¬ ∃ e, (standard.parse d.render).result = .ok e ∧ d.matching e = true ∧ e.render = d.render := by
  have scanned : (Scan.scan (.refining {})
      "<!DOCTYPE skd default>\n<!SKD version=\"0.2\">\n\n<SKD/>\n").result =
        .ok {
          entries := .ofTags [.ofVoid "SKD" []]
          doctype := ⟨"default"⟩
          version := ⟨"0.2"⟩
          singleton := true } :=
    (Scan.scan_eq_ok (Scan.Setting.stock_refining {})).2 ⟨by decide,
      [(0, .declaration (.doctype "default")), (0, .declaration (.version "0.2")), (0, .blank),
        (0, .void "SKD" [])], _, _, rfl, rfl, rfl, rfl⟩
  have accepted := parse_standard.2 ⟨by decide, scanned⟩
  refine ⟨_, accepted, fun again => ?_⟩
  have faithful := (parse_render_iff accepted (by decide)).1 again (.ofVoid "SKD" [])
    (by simp [Body.ofTags, Body.tags])
  exact faithful.here.modern rfl

end Context
end TabMarkup
