import TabMarkup.Proofs.Markup.Declaration

/-!
Rows: the lines that the writer makes, without their ends. A tag is its head, the rows of its
children, its content and the closing tag; a document is its declarations, a blank row and the
rows of its entries.
-/
namespace TabMarkup

/-- A pair as the writer shows it: a property without a value is written with an empty one. -/
def Property.pair (p : Property) : String × String := (p.name, p.value.getD "")

namespace Tag

def pairs (t : Tag) : List (String × String) := t.properties.map Property.pair

def indented (k : Nat) (cs : List Char) : List Char := List.replicate k '\t' ++ cs

def contentRows (k : Nat) (content : Option String) : List (List Char) :=
  content.toList.flatMap fun text => (Text.pieces '\n' text.toList).map (indented k)

mutual
def rows (k : Nat) : Tag → List (List Char)
  | ⟨name, content, void, _, children, properties, _⟩ =>
    indented k (Head.write void name (properties.map Property.pair)) ::
      if void then []
      else rowsAll (k + 1) children ++ contentRows (k + 1) content ++
        [indented k (Line.closingText name)]
def rowsAll (k : Nat) : List Tag → List (List Char)
  | [] => []
  | t :: ts => rows k t ++ rowsAll k ts
end

theorem rowsAll_eq (k : Nat) (ts : List Tag) : rowsAll k ts = ts.flatMap (rows k) := by
  induction ts with
  | nil => rfl
  | cons t ts ih => rw [rowsAll, ih, List.flatMap_cons]

theorem rows_eq (k : Nat) (t : Tag) :
    t.rows k = indented k (Head.write t.void t.name t.pairs) ::
      if t.void then []
      else t.children.flatMap (rows (k + 1)) ++ contentRows (k + 1) t.content ++
        [indented k (Line.closingText t.name)] := by
  cases t
  simp only [rows, rowsAll_eq, pairs]

/-! ### The text of rows -/

def ended (rows : List (List Char)) : List Char := rows.flatMap (· ++ ['\n'])

@[simp] theorem ended_nil : ended [] = [] := rfl

@[simp] theorem ended_cons (r : List Char) (rs : List (List Char)) :
    ended (r :: rs) = r ++ '\n' :: ended rs := by
  simp [ended]

@[simp] theorem ended_append (rs ss : List (List Char)) :
    ended (rs ++ ss) = ended rs ++ ended ss := by
  simp [ended]

theorem ended_flatMap {α : Type} (f : α → List (List Char)) (as : List α) :
    Tag.ended (as.flatMap f) = as.flatMap fun a => Tag.ended (f a) := by
  simp [Tag.ended, List.flatMap_assoc]

theorem toList_newline (k : Nat) (out : String) :
    (newline k out).toList = out.toList ++ '\n' :: List.replicate k '\t' := by
  simp [newline, tabs]

theorem toList_writeHead (name : String) (properties : List Property) (out : String) :
    (writeHead name properties out).toList =
      out.toList ++ '<' :: (name.toList ++ writePairs (properties.map Property.pair)) := by
  have listed := Text.toList_foldl (f := fun out p => out ++ " " ++ p.render)
    (g := fun p : Property => ' ' :: writePair p.pair)
    (fun out p => by simp [Property.render, writePair, Property.pair])
  simp [writeHead, listed, writePairs, List.flatMap_map]

theorem writeContent_ended (k : Nat) (content : Option String) (out : String) :
    (writeContent k content out).toList ++ ['\n'] =
      out.toList ++ '\n' :: ended (contentRows k content) := by
  have go (ls : List (List Char)) (out : String) :
      (ls.foldl (fun out line => newline k out ++ String.ofList line) out).toList ++ ['\n'] =
        out.toList ++ '\n' :: ended (ls.map (indented k)) := by
    induction ls generalizing out with
    | nil => simp
    | cons l ls ih =>
      rw [List.foldl_cons, ih]
      simp [toList_newline, indented]
  cases content with
  | none => simp [writeContent, contentRows]
  | some text => simpa [writeContent, contentRows] using go (Text.pieces '\n' text.toList) out

theorem append_newline {text rows : List Char} (h : text ++ ['\n'] = rows) (rest : List Char) :
    text ++ '\n' :: rest = rows ++ rest := by
  rw [← h, List.append_assoc]
  rfl

mutual
/-- A tag behind its tabs, with the end of its last row. -/
theorem write_ended (k : Nat) : (t : Tag) → (out : String) → (start : List Char) →
    out.toList = start ++ List.replicate k '\t' →
    (write k t out).toList ++ ['\n'] = start ++ ended (rows k t)
  | ⟨name, content, true, _, children, properties, _⟩, out, start, h => by
    simp [write, rows, toList_writeHead, h, indented, Head.write, Head.ending]
  | ⟨name, content, false, _, children, properties, _⟩, out, start, h => by
    have body := writeChildren_ended (k + 1) children (writeHead name properties out ++ ">")
    have text := writeContent_ended (k + 1) content
      (writeChildren (k + 1) children (writeHead name properties out ++ ">"))
    have last (out : String) : (newline k out ++ "</" ++ name ++ ">").toList ++ ['\n'] =
        out.toList ++ '\n' :: ended [indented k (Line.closingText name)] := by
      simp [toList_newline, indented, Line.closingText]
    rw [write, rows]
    simp only [Bool.false_eq_true, if_false]
    rw [last, append_newline text, List.append_assoc, List.cons_append, append_newline body]
    simp [toList_writeHead, h, indented, Head.write, Head.ending]
theorem writeChildren_ended (k : Nat) : (ts : List Tag) → (out : String) →
    (writeChildren k ts out).toList ++ ['\n'] = out.toList ++ '\n' :: ended (rowsAll k ts)
  | [], out => by simp [writeChildren, rowsAll]
  | t :: ts, out => by
    have head := write_ended k t (newline k out) (out.toList ++ ['\n']) (by simp [toList_newline])
    have tail := writeChildren_ended k ts (write k t (newline k out))
    rw [writeChildren, tail, rowsAll, ended_append]
    rw [append_newline head]
    simp
end

theorem toList_render_append (t : Tag) : t.render.toList ++ ['\n'] = ended (t.rows 0) := by
  simpa [render] using write_ended 0 t "" [] rfl

end Tag

/-! ### Documents -/

namespace Body

/-- The rows of an entry with its number; a blank in first place has none. -/
def entryRows : Option Tag × Nat → List (List Char)
  | (some t, _) => t.rows 0
  | (none, 0) => []
  | (none, _ + 1) => [[]]

def rows (b : Body) : List (List Char) := b.entries.toList.zipIdx.flatMap entryRows

theorem toList_writeEntry (out : String) (e : Option Tag × Nat) :
    (writeEntry out e).toList = out.toList ++ Tag.ended (entryRows e) := by
  match e with
  | (some t, _) =>
    have written := Tag.write_ended 0 t out out.toList (by simp)
    simpa [writeEntry, entryRows] using written
  | (none, 0) => simp [writeEntry, entryRows]
  | (none, _ + 1) => simp [writeEntry, entryRows]

theorem toList_write (b : Body) (out : String) :
    (b.write out).toList = out.toList ++ Tag.ended b.rows := by
  rw [rows, Tag.ended_flatMap]
  exact Text.toList_foldl toList_writeEntry _ out

theorem tags_ofTags (ts : List Tag) : (ofTags ts).tags = ts := by
  simp [tags, ofTags]

theorem rows_ofTags (ts : List Tag) : (ofTags ts).rows = ts.flatMap (Tag.rows 0) := by
  have go (i : Nat) : ((ts.map some).zipIdx i).flatMap entryRows = ts.flatMap (Tag.rows 0) := by
    induction ts generalizing i with
    | nil => rfl
    | cons t ts ih => rw [List.map_cons, List.zipIdx_cons, List.flatMap_cons, ih, List.flatMap_cons]; rfl
  simpa [rows, ofTags] using go 0

end Body

namespace Document

def rows (d : Document) : List (List Char) :=
  Declaration.doctypeText d.doctype.stylesheet :: Declaration.versionText d.version.number :: [] ::
    d.entries.rows

theorem toList_render (d : Document) : d.render.toList = Tag.ended d.rows := by
  simp [render, Body.toList_write, Declaration.toList_renderDoctype, Declaration.toList_renderVersion,
    rows]

theorem lines_render {d : Document} (h : ∀ r ∈ d.rows, '\n' ∉ r) :
    Text.lines d.render.toList = d.rows.map Text.dropReturn := by
  rw [toList_render]
  exact Text.lines_flatMap h

theorem size_rows_le (d : Document) :
    Text.size (d.rows.map Text.dropReturn) ≤ d.render.utf8ByteSize := by
  calc Text.size (d.rows.map Text.dropReturn)
      ≤ Text.byteLength (Tag.ended d.rows) := Text.size_map_dropReturn_le d.rows
    _ = d.render.utf8ByteSize := by
      rw [← toList_render, ← Text.utf8ByteSize_ofList, String.ofList_toList]

theorem length_rows_le (d : Document) : d.rows.length ≤ d.render.utf8ByteSize := by
  have counted := Text.length_le_size (d.rows.map Text.dropReturn)
  rw [List.length_map] at counted
  exact Nat.le_trans counted d.size_rows_le

theorem size_lines_render {d : Document} (h : ∀ r ∈ d.rows, '\n' ∉ r) :
    Text.size (Text.lines d.render.toList) ≤ d.render.utf8ByteSize := by
  rw [lines_render h]
  exact d.size_rows_le

end Document
end TabMarkup
