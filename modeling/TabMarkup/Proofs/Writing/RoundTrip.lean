import TabMarkup.Proofs.Writing.Rereading

/-!
Writable documents, which are read back as they were written. What makes a document writable
can be seen in its names, keys, values and lines, without reading anything.
-/
namespace TabMarkup

structure Property.Writable (p : Property) : Prop where
  name : p.name ≠ ""
  letters : ∀ c ∈ p.name.toList, Text.isBlank c = false ∧ c ≠ '=' ∧ c ≠ '"'
  value : ∃ v, p.value = some v ∧ '"' ∉ v.toList ∧ '\n' ∉ v.toList

/-- What is asked of one tag, whatever its shape and whether it is closed. -/
structure Tag.Writable (t : Tag) : Prop where
  name : t.name ≠ ""
  letters : ∀ c ∈ t.name.toList, Text.isBlank c = false ∧ c ∉ ['<', '>', '"', '=', '/']
  plain : t.name.toList.head? ≠ some '!'
  modern : t.name ≠ Line.legacyName
  properties : ∀ p ∈ t.properties, p.Writable
  distinct : t.properties.Pairwise fun p q => p.same q = false
  content : ∀ text ∈ t.content, ∀ l ∈ Text.pieces '\n' text.toList,
    IsContentLine l ∧ l.getLast? ≠ some '\r'
  void : t.void = true → t.content = none ∧ t.children = []

/-- The blank entries of a body and the variant of a document are free. -/
structure Document.Writable (d : Document) : Prop where
  stylesheet : IsStylesheet d.doctype.stylesheet
  version : '"' ∉ d.version.number.toList ∧ '\n' ∉ d.version.number.toList
  tags : ∀ t ∈ d.entries.tags, t.Everywhere (fun _ t => t.Writable) 0

theorem Text.newline_not_mem_of_solid {cs : List Char} (h : Solid cs) : '\n' ∉ cs := by
  intro mem
  have solid := h '\n' mem
  cases solid

theorem Property.Writable.isKey {p : Property} (h : p.Writable) : IsKey p.name := by
  refine ⟨h.name, fun c hc => ?_⟩
  obtain ⟨solid, equals, quote⟩ := h.letters c hc
  have space : c ≠ ' ' := by
    rintro rfl
    cases solid
  simp [Token.isSeparator, space, equals, quote]

namespace Tag.Writable
variable {t : Tag}

theorem solid (h : t.Writable) : Text.Solid t.name.toList := fun c hc => (h.letters c hc).1

theorem isTagName (h : t.Writable) : IsTagName t.name := by
  refine ⟨h.name, fun c hc => ?_⟩
  obtain ⟨solid, other⟩ := h.letters c hc
  have tab : c ≠ '\t' := by
    rintro rfl
    cases solid
  have space : c ≠ ' ' := by
    rintro rfl
    cases solid
  simp only [List.mem_cons, List.not_mem_nil, or_false, not_or] at other
  simp [Head.isNameChar, other, tab, space]

theorem nodup (h : t.Writable) : t.pairs.Nodup := by
  rw [Tag.pairs, List.Nodup, List.pairwise_map]
  refine h.distinct.imp_of_mem fun {p q} hp hq different same => ?_
  obtain ⟨v, hv, -⟩ := (h.properties p hp).value
  obtain ⟨w, hw, -⟩ := (h.properties q hq).value
  simp only [Property.pair, hv, hw, Option.getD_some, Prod.mk.injEq] at same
  simp [Property.same, hv, hw, same] at different

theorem legible (h : t.Writable) : t.Legible where
  name := h.isTagName
  plain := h.plain
  line := Text.newline_not_mem_of_solid h.solid
  pairs p hp := by
    obtain ⟨q, hq, rfl⟩ := List.mem_map.1 hp
    have written := h.properties q hq
    obtain ⟨v, hv, quote, newline⟩ := written.value
    have key : Text.Solid q.name.toList := fun c hc => (written.letters c hc).1
    simp only [Property.pair, hv, Option.getD_some]
    exact ⟨⟨written.isKey, quote⟩, Text.newline_not_mem_of_solid key, newline⟩
  valued p hp := by
    obtain ⟨v, hv, -⟩ := (h.properties p hp).value
    rw [hv]
    rfl
  distinct := h.nodup
  content text htext l hl := (h.content text htext l hl).1
  solid _ := h.solid
  void := h.void

theorem faithful (h : t.Writable) : t.Faithful where
  name _ _ c hc := h.solid c (List.mem_of_getLast? hc)
  key p hp c hc := ((h.properties p (List.mem_of_head? hp)).letters c (List.mem_of_head? hc)).1
  content text htext l hl := (h.content text htext l hl).2
  modern := h.modern

end Tag.Writable

theorem Document.Writable.legible {d : Document} (h : d.Writable) : d.Legible where
  stylesheet := h.stylesheet
  version := h.version.1
  line := h.version.2
  tags t ht := (h.tags t ht).imp fun _ _ written => written.legible

/-- A tag with content and another tag in it, and a blank entry. -/
def Document.notes : Document where
  entries := ⟨#[some { name := "a", content := some "x\ny z", children := [
    { name := "b", void := true, properties := [{ name := "k", value := some "v w" }] }] }, none]⟩
  doctype := ⟨"notes"⟩
  version := .current

theorem Document.writable_notes : Document.notes.Writable := by
  refine ⟨⟨by decide, Text.solid_of_all rfl, rfl, rfl⟩, by decide, ?_⟩
  simp only [Document.notes, Body.tags, List.filterMap_cons, id, List.filterMap_nil,
    List.forall_mem_singleton]
  refine .intro ?_ ?_
  · constructor
    case content =>
      have lines : Text.pieces '\n' "x\ny z".toList = [['x'], ['y', ' ', 'z']] := rfl
      simp only [Option.mem_some, forall_eq', lines, List.forall_mem_cons]
      refine ⟨⟨⟨⟨'x', by simp, rfl⟩, by simp, by simp⟩, by simp⟩, ?_, by simp⟩
      exact ⟨⟨⟨'y', by simp, rfl⟩, by simp, by simp⟩, by simp⟩
    all_goals simp [Text.isBlank, Line.legacyName]
  · rw [List.forall_mem_singleton]
    refine .intro ?_ (by simp)
    constructor <;> simp [Text.isBlank, Line.legacyName]
    constructor <;> simp [Text.isBlank]

theorem Document.holds_notes (blankLines : BlankLines) :
    Config.HoldsDocument { blankLines } Document.notes := by
  have small : Document.notes.render.utf8ByteSize ≤ 1024 * 1024 := by decide
  have shallow : 1 ≤ 32 := by decide
  refine ⟨small, ?_⟩
  simp only [Document.notes, Body.tags, List.filterMap_cons, id, List.filterMap_nil,
    List.forall_mem_singleton]
  refine .intro ⟨Nat.zero_le _, by simp, by simp [Tag.pairs, Config.Fits], by simp; decide⟩ ?_
  rw [List.forall_mem_singleton]
  refine .intro ⟨shallow, by simp, ?_, by simp⟩ (by simp)
  simp [Tag.pairs, Config.Fits]
  decide

namespace Reader

/-- A writable document is read back from what was written, in the empty context and by any
configuration that admits it and does not ask for known doctypes. -/
theorem read_render {d : Document} {c : Config} (h : d.Writable) (lenient : c.strictDoctypes = false)
    (within : c.HoldsDocument d) (name : String) (writable : Bool) (buffer : Nat) (s : Storage) :
    ∃ e, (({ holder := .memory name d.render writable true buffer, config := c } : Reader).read
        .empty s).1.result = .ok e ∧ d.matching e = true := by
  have faithful : ∀ t ∈ d.entries.tags, t.Everywhere (fun _ t => t.Faithful) 0 := fun t ht =>
    (h.tags t ht).imp fun _ _ written => written.faithful
  have strict : (Scan.Setting.plain c).config.strictDoctypes = true →
      (Scan.Setting.plain c).knows d.doctype = true := fun asked => by
    rw [show c.strictDoctypes = true from asked] at lenient
    cases lenient
  obtain ⟨e, read, same, -⟩ := (Document.scan_render_iff (Scan.Setting.stock_plain c)
    (Scan.Setting.reshaping_plain c) strict h.legible within).2 faithful
  exact ⟨e, read_memory.2 ⟨within.size, read⟩, same⟩

theorem read_render_notes :
    ∃ e, (({ holder := .memory "notes" Document.notes.render false true 0, config := {} } : Reader).read
        .empty {}).1.result = .ok e ∧ Document.notes.matching e = true :=
  read_render Document.writable_notes rfl (Document.holds_notes .skip) "notes" false 0 {}

end Reader
end TabMarkup
