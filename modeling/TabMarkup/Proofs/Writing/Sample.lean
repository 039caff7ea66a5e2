import Mathlib.Algebra.Group.Nat.Defs
import TabMarkup.Sample
import TabMarkup.Proofs.Writing.Settled

/-!
Sample documents, for any numbers of sections and of items. The text that is put together row by row is
the one that the writer makes of a document, so a sample that is not too large is read as this document:
each section as a list of scalars.
-/
namespace TabMarkup

/-! ### Numbers -/

namespace Text

theorem isDigit_of_mem_toString {n : Nat} {c : Char} (h : c ∈ (toString n).toList) :
    c.isDigit = true := by
  rw [Nat.toString_eq_repr, Nat.toList_repr] at h
  exact Nat.isDigit_of_mem_toDigits (by decide) (by decide) h

theorem size_toString_le {n e : Nat} (positive : 0 < e) (small : n < 10 ^ e) :
    (toString n).utf8ByteSize ≤ 4 * e := by
  have digits : (toString n).toList.length ≤ e := by
    rw [Nat.toString_eq_repr, Nat.toList_repr]
    exact (Nat.length_toDigits_le_iff (by decide) positive).2 small
  have wide := byteLength_le (toString n).toList
  rw [← utf8ByteSize_ofList, String.ofList_toList] at wide
  omega

end Text

namespace Sample

/-! ### What a sample holds -/

def itemTag (k j : Nat) : Tag where
  name := "entry"
  void := true
  closed := true
  properties := [{ name := "value", value := some (toString k ++ "-" ++ toString j) }]
  shape := .scalar

def sectionTag (items k : Nat) : Tag where
  name := "entries"
  closed := true
  children := (List.range items).map (itemTag k)
  properties := [{ name := "id", value := some (toString k) }]
  shape := if items = 0 then .generic else .list "entry"

def document (sections items : Nat) : Document where
  entries := .ofTags ((List.range sections).map (sectionTag items))
  doctype := ⟨"default"⟩
  version := .current
  singleton := sections == 1

variable {sections items k j : Nat}

/-! ### Its text -/

theorem rows_itemTag (k j : Nat) : (itemTag k j).rows 1 =
    [Tag.indented 1 (Head.write true "entry" [("value", toString k ++ "-" ++ toString j)])] := by
  rw [Tag.rows_eq]
  rfl

theorem rows_sectionTag (items k : Nat) : (sectionTag items k).rows 0 =
    Head.write false "entries" [("id", toString k)] ::
      ((List.range items).flatMap fun j => (itemTag k j).rows 1) ++ [Line.closingText "entries"] := by
  rw [Tag.rows_eq]
  simp [sectionTag, Tag.pairs, Property.pair, Tag.contentRows, Tag.indented, List.flatMap_map]

theorem toList_item (k j : Nat) : (item k j).toList = Tag.ended ((itemTag k j).rows 1) := by
  rw [rows_itemTag]
  unfold item
  -- What the numerals are does not matter, and they must not be computed.
  generalize toString k = shown
  generalize toString j = shown'
  simp [Tag.indented, Head.write, Head.ending, writePair]

theorem toList_writeSection (items : Nat) (out : String) (k : Nat) :
    (writeSection items out k).toList = out.toList ++ Tag.ended ((sectionTag items k).rows 0) := by
  have listed := Text.toList_foldl (f := fun out i => out ++ item k i)
    (g := fun i => Tag.ended ((itemTag k i).rows 1)) fun out j => by
      rw [String.toList_append, toList_item]
  simp [rows_sectionTag, writeSection, listed, Tag.ended_flatMap, Head.write, Head.ending, writePair,
    Line.closingText]

theorem render_document (sections items : Nat) :
    (document sections items).render = text sections items := by
  apply String.toList_inj.1
  have opened : "<!DOCTYPE skd default>\n<!SKD version=\"0.2\">\n\n".toList =
      Tag.ended [Declaration.doctypeText "default", Declaration.versionText "0.2", []] := rfl
  have written := Text.toList_foldl (toList_writeSection items) (List.range sections)
  rw [Document.toList_render, text, written, opened, ← Tag.ended_flatMap, ← Tag.ended_append,
    Document.rows, document, Body.rows_ofTags, List.flatMap_map]
  rfl

theorem length_rows_document (sections items : Nat) :
    (document sections items).rows.length = 3 + sections * (items + 2) := by
  have listed (k : Nat) : ((sectionTag items k).rows 0).length = items + 2 := by
    simp [rows_sectionTag, rows_itemTag]
  have body : (document sections items).entries.rows.length = sections * (items + 2) := by
    simp [document, Body.rows_ofTags, List.flatMap_map, listed]
  rw [Document.rows, List.length_cons, List.length_cons, List.length_cons, body]
  omega

/-- In a text that is not too large all numbers have few digits. -/
theorem lt_of_small (small : (text sections items).utf8ByteSize ≤ ({} : Config).maxSize)
    (inside : k < sections) : k < 10 ^ 7 ∧ ∀ j < items, j < 10 ^ 7 := by
  have counted := (document sections items).length_rows_le
  have size : ({} : Config).maxSize < 10 ^ 7 := by decide
  rw [render_document, length_rows_document] at counted
  have wide : sections ≤ sections * (items + 2) := Nat.le_mul_of_pos_right _ (by omega)
  have long : items + 2 ≤ sections * (items + 2) := Nat.le_mul_of_pos_left _ (by omega)
  exact ⟨by omega, fun j below => by omega⟩

/-! ### Reading it -/

/-- The names of tags and of properties. -/
def names : List String := ["entries", "id", "entry", "value"]

theorem writable_of_mem_names : ∀ name ∈ names, name ≠ "" ∧
    (∀ c ∈ name.toList, Text.isBlank c = false ∧ c ∉ ['<', '>', '"', '=', '/']) ∧
    name.toList.head? ≠ some '!' ∧ name ≠ Line.legacyName := by
  simp [names, Line.legacyName, Text.isBlank]

/-- A tag without content can be written that has one property with numerals for its value. -/
theorem writable_of_numerals {t : Tag} {key value : String} (named : t.name ∈ names) (keyed : key ∈ names)
    (properties : t.properties = [{ name := key, value := some value }])
    (numerals : ∀ c ∈ value.toList, c.isDigit = true ∨ c = '-') (content : t.content = none)
    (void : t.void = true → t.children = []) : t.Writable := by
  obtain ⟨name, letters, plain, modern⟩ := writable_of_mem_names t.name named
  obtain ⟨key', letters', -, -⟩ := writable_of_mem_names key keyed
  refine ⟨name, letters, plain, modern, ?_, ?_, by simp [content], fun h => ⟨content, void h⟩⟩
  · intro p mem
    rw [properties, List.mem_singleton] at mem
    rw [mem]
    refine ⟨key', fun c inside => ?_, value, rfl, fun quote => ?_, fun newline => ?_⟩
    · obtain ⟨solid, other⟩ := letters' c inside
      simp only [List.mem_cons, not_or] at other
      exact ⟨solid, other.2.2.2.1, other.2.2.1⟩
    · exact absurd (numerals _ quote) (by decide)
    · exact absurd (numerals _ newline) (by decide)
  · rw [properties]
    exact List.pairwise_singleton _ _

theorem settled_itemTag (k j : Nat) : (itemTag k j).Settled where
  toWritable := by
    refine writable_of_numerals (by simp [itemTag, names]) (by simp [names]) rfl
      (fun c shown => ?_) rfl fun _ => rfl
    simp only [String.toList_append, List.mem_append] at shown
    rcases shown with (digit | dash) | digit
    · exact .inl (Text.isDigit_of_mem_toString digit)
    · exact .inr (List.mem_singleton.1 dash)
    · exact .inl (Text.isDigit_of_mem_toString digit)
  closed := rfl
  unmarked p mem := by rw [List.mem_singleton.1 mem]
  shaped := Refiner.refine_of_makesScalar ⟨rfl, rfl⟩ ⟨rfl, _, rfl, rfl⟩

theorem shaped_sectionTag (items k : Nat) :
    Refiner.builtin.tags.refine { sectionTag items k with shape := .generic } =
      .ok (sectionTag items k) := by
  by_cases none : items = 0
  · subst none
    rfl
  · have plural : Refiner.PluralOf "entries" "entry" := Refiner.isPluralOf_iff.1 (by decide)
    have makes : Refiner.MakesList { sectionTag items k with shape := .generic } "entry" := by
      refine ⟨rfl, rfl, by simp [sectionTag, itemTag], ?_⟩
      have count : (sectionTag items k).children.length = items := by simp [sectionTag]
      by_cases one : items = 1
      · exact .inr ⟨count.trans one, plural⟩
      · exact .inl (by simp only [count]; omega)
    rw [Refiner.refine_of_makesList ⟨rfl, rfl⟩ makes]
    simp [sectionTag, none]

theorem settled_sectionTag (items k : Nat) :
    (sectionTag items k).Everywhere (fun _ t => t.Settled) 0 := by
  refine .intro ⟨?_, rfl, fun p mem => by rw [List.mem_singleton.1 mem], shaped_sectionTag items k⟩ ?_
  · exact writable_of_numerals (by simp [sectionTag, names]) (by simp [names]) rfl
      (fun c digit => .inl (Text.isDigit_of_mem_toString digit)) rfl nofun
  · intro u mem
    obtain ⟨j, -, rfl⟩ := List.mem_map.1 mem
    exact .intro (settled_itemTag k j) nofun

theorem tags_document (sections items : Nat) :
    (document sections items).entries.tags = (List.range sections).map (sectionTag items) :=
  Body.tags_ofTags _

theorem settled_document (sections items : Nat) : (document sections items).Settled := by
  have stylesheet : IsStylesheet "default" := ⟨by decide, Text.solid_of_all rfl, rfl, rfl⟩
  have version : '"' ∉ "0.2".toList ∧ '\n' ∉ "0.2".toList := by decide
  refine ⟨stylesheet, version, fun t mem => ?_, ?_, ?_⟩
  · rw [tags_document] at mem
    obtain ⟨k, -, rfl⟩ := List.mem_map.1 mem
    exact settled_sectionTag items k
  · rw [Body.Dense, tags_document]
    rfl
  · rw [Document.tagCount, Body.tagCount, tags_document, List.length_map, List.length_range]
    rfl

theorem holds_of_short {t : Tag} {depth : Nat} {key value : String} (shallow : depth ≤ 1)
    (properties : t.properties = [{ name := key, value := some value }]) (content : t.content = none)
    (short : value.utf8ByteSize ≤ 57) : ({} : Config).Holds depth t := by
  have pairs : t.pairs = [(key, value)] := by rw [Tag.pairs, properties]; rfl
  have deep : 1 ≤ ({} : Config).maxDepth := by decide
  have many : 1 ≤ ({} : Config).maxProperties := by decide
  have long : 57 ≤ ({} : Config).maxStringLength := by decide
  refine ⟨Nat.le_trans shallow deep, by simp [content], ?_, by simp [content]⟩
  rw [pairs]
  exact ⟨many, by simpa using Nat.le_trans short long⟩

theorem holds_document (small : (text sections items).utf8ByteSize ≤ ({} : Config).maxSize) :
    Config.HoldsDocument {} (document sections items) := by
  refine ⟨by rwa [render_document], fun t mem => ?_⟩
  rw [tags_document] at mem
  obtain ⟨k, inside, rfl⟩ := List.mem_map.1 mem
  obtain ⟨few, fewer⟩ := lt_of_small small (List.mem_range.1 inside)
  have size := Text.size_toString_le (by decide) few
  refine .intro (holds_of_short (Nat.zero_le _) rfl rfl (by omega)) fun u mem => ?_
  obtain ⟨j, below, rfl⟩ := List.mem_map.1 mem
  have size' := Text.size_toString_le (by decide) (fewer j (List.mem_range.1 below))
  refine .intro (holds_of_short (Nat.le_refl _) rfl rfl ?_) nofun
  have dash : "-".utf8ByteSize = 1 := rfl
  simp only [String.utf8ByteSize_append, dash]
  omega

/-- A sample that is no larger than allowed is read in the standard context. It has the declarations
that it shows and as many tags as sections: each has its number as the one property, no content and the
items as void tags, which are scalars, and is a list if there are any. A sample of one section is a
singleton, and the text is what the writer makes of the document. -/
theorem parse_text (small : (text sections items).utf8ByteSize ≤ ({} : Config).maxSize) :
    ∃ d, (Context.standard.parse (text sections items)).result = .ok d ∧
      d.doctype = ⟨"default"⟩ ∧ d.version = ⟨"0.2"⟩ ∧ d.tagCount = sections ∧
      (∀ k < sections, ∃ t, d.entries.tagAt? k = some t ∧ t.name = "entries" ∧
        t.properties = [{ name := "id", value := some (toString k) }] ∧ t.content = none ∧
        t.children.length = items ∧
        (∀ j < items, ∃ u, t.children[j]? = some u ∧ u.name = "entry" ∧ u.void = true ∧
          u.variant = .scalar ∧ u.value? = some (toString k ++ "-" ++ toString j)) ∧
        (t.variant = .list ↔ 1 ≤ items)) ∧
      (d.variant = .singleton ↔ sections = 1) ∧ d.render = text sections items := by
  have read := Document.parse_render_of_settled (settled_document sections items) (holds_document small)
  rw [render_document] at read
  refine ⟨document sections items, read, rfl, rfl, ?_, fun k inside => ?_, ?_, render_document _ _⟩
  · simp [Document.tagCount, Body.tagCount, tags_document]
  · refine ⟨sectionTag items k, ?_, rfl, rfl, rfl, ?_, fun j below => ?_, ?_⟩
    · simp [Body.tagAt?, tags_document, inside]
    · simp [sectionTag]
    · exact ⟨itemTag k j, by simp [sectionTag, below], rfl, rfl, rfl, rfl⟩
    · by_cases none : items = 0 <;>
        simp [Tag.variant, sectionTag, none, Shape.variant, Nat.one_le_iff_ne_zero]
  · simp [Document.variant, document]

def sample : String :=
  "<!DOCTYPE skd default>\n<!SKD version=\"0.2\">\n\n<entries id=\"0\">\n\t<entry value=\"0-0\" />\n" ++
  "</entries>\n<entries id=\"1\">\n\t<entry value=\"1-0\" />\n</entries>\n"

/-- Two sections of one item, which makes a list because `entries` is the plural of `entry`. -/
theorem parse_text_sample :
    ∃ d, (Context.standard.parse sample).result = .ok d ∧ d.tagCount = 2 ∧
      (∃ t, d.entries.tagAt? 1 = some t ∧ t.variant = .list ∧
        ∃ u, t.children[0]? = some u ∧ u.value? = some "1-0") ∧
      d.variant ≠ .singleton ∧ d.render = sample := by
  have shown : text 2 1 = sample := rfl
  have small : sample.utf8ByteSize ≤ ({} : Config).maxSize := by decide +kernel
  have small' : (text 2 1).utf8ByteSize ≤ ({} : Config).maxSize := shown ▸ small
  obtain ⟨d, read, -, -, count, tags, single, again⟩ := parse_text small'
  obtain ⟨t, second, -, -, -, -, items, list⟩ := tags 1 (by decide)
  obtain ⟨u, only, -, -, -, value⟩ := items 0 (by decide)
  exact ⟨d, shown ▸ read, count, ⟨t, second, list.2 (by decide), u, only, value⟩,
    fun singleton => absurd (single.1 singleton) (by decide), again.trans shown⟩

end Sample
end TabMarkup
