import TabMarkup.Proofs.Writing.RoundTrip
import TabMarkup.Proofs.Writing.Stable

/-!
The layout of documents that are written and read again where blank lines are preserved. The line
that always follows the declarations is read as a blank in first place, and a blank in first place
is not written; so all other blanks stay where they are.
-/
namespace TabMarkup

namespace Body

/-- The entries with a blank in first place, for the line that always follows the declarations. -/
def laidOut : List (Option Tag) → List (Option Tag)
  | none :: es => none :: es
  | es => none :: es

theorem mem_of_mem_laidOut {es : List (Option Tag)} {t : Tag} (h : some t ∈ laidOut es) :
    some t ∈ es := by
  unfold laidOut at h
  split at h
  · exact h
  · simpa using h

/-! ### Rows -/

/-- The rows of an entry that is not in first place. -/
def laterRows : Option Tag → List (List Char)
  | some t => t.rows 0
  | none => [[]]

theorem rows_later (es : List (Option Tag)) (i : Nat) :
    (es.zipIdx (i + 1)).flatMap entryRows = es.flatMap laterRows := by
  induction es generalizing i with
  | nil => rfl
  | cons e es ih =>
    rw [List.zipIdx_cons, List.flatMap_cons, ih, List.flatMap_cons]
    cases e <;> rfl

theorem rows_laidOut (es : List (Option Tag)) :
    (laidOut es).zipIdx.flatMap entryRows = es.zipIdx.flatMap entryRows := by
  match es with
  | [] => rfl
  | none :: es => rfl
  | some t :: es =>
    have rest := rows_later es 0
    calc (laidOut (some t :: es)).zipIdx.flatMap entryRows
        = (some t :: es).flatMap laterRows := rows_later (some t :: es) 0
      _ = (some t :: es).zipIdx.flatMap entryRows := by
        rw [List.flatMap_cons, ← rest, List.zipIdx_cons, List.flatMap_cons]
        rfl

end Body

/-! ### Reading -/

namespace Nest
variable {g : Scan.Setting} {n : Nest}

theorem blank_preserving {c : Config} (preserve : c.blankLines = .preserve) (hn : n.frames = []) :
    n.blank c = { n with body := n.body.pushBlank } := by
  simp [blank, preserve, hn]

/-- Behind the first place every entry is read as one. -/
theorem entries_foldl (preserve : g.config.blankLines = .preserve) (es : List (Option Tag)) (i : Nat)
    (hn : n.frames = []) :
    ((es.zipIdx (i + 1)).foldl (takeEntry g) n).body.entries.toList =
      n.body.entries.toList ++ es.map (Option.map (Tag.reread g)) := by
  induction es generalizing n i with
  | nil => simp
  | cons e es ih =>
    rw [List.zipIdx_cons, List.foldl_cons]
    cases e with
    | some t =>
      rw [ih (i + 1) (n := n.takeEntry g (some t, i + 1)) hn]
      simp [takeEntry, attach, Body.push]
    | none =>
      have blank : n.takeEntry g (none, i + 1) = { n with body := n.body.pushBlank } :=
        blank_preserving preserve hn
      rw [blank, ih (i + 1) (n := { n with body := n.body.pushBlank }) hn]
      simp [Body.pushBlank]

end Nest

namespace Document
variable {g : Scan.Setting} {d : Document}

theorem entries_reached (preserve : g.config.blankLines = .preserve) (d : Document) :
    (d.reached g).body.entries.toList =
      (Body.laidOut d.entries.entries.toList).map (Option.map (Tag.reread g)) := by
  have start : d.declared.blank g.config = { d.declared with body := Body.empty.pushBlank } :=
    Nest.blank_preserving preserve rfl
  rw [reached, start]
  match d.entries.entries.toList with
  | [] => rfl
  | none :: es =>
    rw [List.zipIdx_cons, List.foldl_cons]
    exact Nest.entries_foldl preserve es 0 rfl
  | some t :: es =>
    rw [List.zipIdx_cons, List.foldl_cons, Nest.entries_foldl preserve es 0 rfl]
    rfl

/-- What is read back is laid out as what was written. -/
theorem alike_reached (preserve : g.config.blankLines = .preserve)
    (kept : ∀ t ∈ d.entries.tags, t.matching (t.reread g) = true) :
    Body.Alike (Body.laidOut d.entries.entries.toList) (d.reached g).body.entries.toList := by
  rw [entries_reached preserve, Body.Alike, List.forall₂_map_right_iff, List.forall₂_same]
  intro e he
  cases e with
  | none => exact .none
  | some t => exact .some (kept t (by simpa [Body.tags] using Body.mem_of_mem_laidOut he))

end Document

namespace Reader

/-- A writable document is read back where blank lines are preserved, entry by entry, with a blank in
first place if it had none; and it has the same text. -/
theorem read_render_preserving {d : Document} {c : Config} (h : d.Writable)
    (preserve : c.blankLines = .preserve)
    (known : c.strictDoctypes = true → (Scan.Setting.plain c).knows d.doctype = true)
    (within : c.HoldsDocument d) (name : String) (writable : Bool) (buffer : Nat) (s : Storage) :
    ∃ e, (({ holder := .memory name d.render writable true buffer, config := c } : Reader).read
        .empty s).1.result = .ok e ∧
      Body.Alike (Body.laidOut d.entries.entries.toList) e.entries.entries.toList ∧
      e.render = d.render := by
  have faithful : ∀ t ∈ d.entries.tags, t.Everywhere (fun _ t => t.Faithful) 0 := fun t ht =>
    (h.tags t ht).imp fun _ _ written => written.faithful
  have readable : ∀ t ∈ d.entries.tags, t.Everywhere (fun _ t => t.Readable) 0 := fun t ht =>
    (faithful t ht).both (h.legible.tags t ht) fun _ _ faithful legible => faithful.readable legible
  have kept : ∀ t ∈ d.entries.tags, t.matching (t.reread (.plain c)) = true := fun t ht =>
    (Tag.matching_reread (Scan.Setting.reshaping_plain c) (h.legible.tags t ht)).2
      ((faithful t ht).imp fun _ _ h => h.toKept)
  obtain ⟨singleton, read⟩ := Document.scan_render (Scan.Setting.stock_plain c)
    (Scan.Setting.reshaping_plain c) known h.legible within readable
  have alike := Document.alike_reached (g := .plain c) preserve kept
  have rows : (d.reached (.plain c)).body.rows = d.entries.rows := by
    rw [Body.rows, Body.rows, ← alike.rows 0, Body.rows_laidOut]
  exact ⟨_, read_memory.2 ⟨within.size, read⟩, alike, Document.render_of_rows rfl rfl rows⟩

/-- A document that starts with a tag is read back with a blank before it. -/
theorem read_render_preserving_notes :
    Document.notes.entries.entries.toList.head?.join.isSome ∧
    ∃ e, (({ holder := .memory "notes" Document.notes.render false true 0
             config := { blankLines := .preserve } } : Reader).read .empty {}).1.result = .ok e ∧
      Body.Alike (none :: Document.notes.entries.entries.toList) e.entries.entries.toList ∧
      e.render = Document.notes.render :=
  ⟨rfl, read_render_preserving Document.writable_notes rfl (fun asked => by cases asked)
    (Document.holds_notes .preserve) "notes" false 0 {}⟩

end Reader
end TabMarkup
