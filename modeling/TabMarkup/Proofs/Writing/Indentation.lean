import Mathlib.Data.List.Infix
import TabMarkup.Tree.Editing
import TabMarkup.Proofs.Writing.Rereading

/-!
The text of a tag, from the texts of its children. The writer never indents a text that is done: it
passes the depth down and writes the tabs itself. What it writes is the head, the lines of the
children's own texts and those of the content with one tab more, and the closing tag.
-/
namespace TabMarkup

/-! ### Lines of texts -/

namespace Text

/-- The lines of a text, without the newlines between them. -/
def rows (text : String) : List String := (pieces '\n' text.toList).map String.ofList

theorem pieces_ended_append (rs : List (List Char)) (cs : List Char) :
    pieces '\n' (Tag.ended rs ++ cs) = rs.flatMap (pieces '\n') ++ pieces '\n' cs := by
  induction rs with
  | nil => rfl
  | cons r rs ih =>
    rw [Tag.ended_cons, List.append_assoc, List.cons_append, pieces_append, ih, List.flatMap_cons,
      List.append_assoc]

theorem flatMap_pieces {rs : List (List Char)} (h : ∀ r ∈ rs, '\n' ∉ r) :
    rs.flatMap (pieces '\n') = rs := by
  induction rs with
  | nil => rfl
  | cons r rs ih =>
    rw [List.flatMap_cons, pieces_of_not_mem (h r (by simp)), ih fun s hs => h s (by simp [hs])]
    rfl

theorem ended_eq_intercalate {rs : List (List Char)} (ne : rs ≠ []) :
    Tag.ended rs = ['\n'].intercalate rs ++ ['\n'] := by
  induction rs with
  | nil => exact absurd rfl ne
  | cons r rs ih =>
    cases rs with
    | nil => simp [List.intercalate]
    | cons s rs =>
      rw [Tag.ended_cons, ih (by simp)]
      simp [List.intercalate]

end Text

namespace Tag
variable {k : Nat} {t u : Tag}

/-! ### Rows at a depth -/

@[simp] theorem indented_zero (cs : List Char) : indented 0 cs = cs := rfl

theorem indented_indented (k j : Nat) (cs : List Char) :
    indented k (indented j cs) = indented (k + j) cs := by
  rw [indented, indented, ← List.append_assoc, List.replicate_append_replicate, indented]

theorem contentRows_add (k j : Nat) (content : Option String) :
    contentRows (k + j) content = (contentRows j content).map (indented k) := by
  have deeper : indented k ∘ indented j = indented (k + j) := funext (indented_indented k j)
  simp [contentRows, List.map_flatMap, deeper]

mutual
/-- A tag that stands deeper has the same rows behind more tabs. -/
theorem rows_add (k j : Nat) : (t : Tag) → t.rows (k + j) = (t.rows j).map (indented k)
  | ⟨name, content, void, _, children, properties, _⟩ => by
    have inside := rowsAll_add k (j + 1) children
    cases void <;> simp [rows, indented_indented, contentRows_add, Nat.add_assoc, inside]
theorem rowsAll_add (k j : Nat) : (ts : List Tag) →
    rowsAll (k + j) ts = (rowsAll j ts).map (indented k)
  | [] => rfl
  | t :: ts => by rw [rowsAll, rows_add k j t, rowsAll_add k j ts, rowsAll, List.map_append]
end

theorem rows_eq_map (k : Nat) (t : Tag) : t.rows k = (t.rows 0).map (indented k) := rows_add k 0 t

theorem rows_ne_nil (k : Nat) (t : Tag) : t.rows k ≠ [] := by
  rw [rows_eq]
  simp

theorem map_ofList_indented (k : Nat) (rs : List (List Char)) :
    (rs.map (indented k)).map String.ofList = (rs.map String.ofList).map (tabs k ++ ·) := by
  simp [tabs, indented, String.ofList_append]

/-! ### Texts at a depth -/

theorem rows_render (h : t.Everywhere (fun _ t => t.Unbroken) k) :
    Text.rows t.render = (t.rows 0).map String.ofList := by
  -- With a newline behind it the text has one more piece, which is empty, and so have its rows.
  have written := Text.pieces_append '\n' t.render.toList []
  rw [t.toList_render_append, ← List.append_nil (ended _), Text.pieces_ended_append,
    Text.flatMap_pieces (newline_not_mem_rows h 0), List.append_cancel_right_eq] at written
  rw [Text.rows, written]

/-- A tag written behind its tabs is its rows, joined by newlines. -/
theorem write_eq_intercalate (k : Nat) (t : Tag) (out : String) :
    t.write k (out ++ tabs k) = out ++ "\n".intercalate ((t.rows k).map String.ofList) := by
  have written := write_ended k t (out ++ tabs k) out.toList (by simp [tabs])
  rw [Text.ended_eq_intercalate (rows_ne_nil k t), ← List.append_assoc,
    List.append_cancel_right_eq] at written
  apply String.toList_inj.1
  rw [written, String.toList_append, toList_intercalate_ofList]

/-- The start of a tag: its name and its properties. -/
def head (t : Tag) : String :=
  "<" ++ t.name ++
    String.join (t.properties.map fun p => " " ++ p.name ++ "=\"" ++ p.value.getD "" ++ "\"")

/-- The lines of a tag: the head alone, or the head, the lines of the children's texts and of the
content with one tab more, and the closing tag. -/
def composed (t : Tag) : List String :=
  if t.void then [t.head ++ " />"]
  else
    [t.head ++ ">"] ++
      t.children.flatMap (fun child => (Text.rows child.render).map (tabs 1 ++ ·)) ++
      t.content.toList.flatMap (fun text => (Text.rows text).map (tabs 1 ++ ·)) ++
      ["</" ++ t.name ++ ">"]

theorem ofList_head (t : Tag) :
    String.ofList (Head.write t.void t.name t.pairs) = t.head ++ if t.void then " />" else ">" := by
  apply String.toList_inj.1
  cases void : t.void <;>
    simp [head, Head.write, Head.ending, writePairs, writePair, pairs, Property.pair, List.flatMap_map]

theorem map_ofList_contentRows (content : Option String) :
    (contentRows k content).map String.ofList =
      content.toList.flatMap fun text => (Text.rows text).map (tabs k ++ ·) := by
  simp only [contentRows, List.map_flatMap, map_ofList_indented, Text.rows]

theorem map_ofList_rows (h : t.Everywhere (fun _ t => t.Unbroken) k) :
    (t.rows 0).map String.ofList = t.composed := by
  have deeper : ∀ u ∈ t.children,
      (u.rows 1).map String.ofList = (Text.rows u.render).map (tabs 1 ++ ·) := fun u hu => by
    rw [u.rows_eq_map 1, map_ofList_indented, rows_render (h.inside u hu)]
  have children := List.flatMap_congr deeper
  have closing : String.ofList (Line.closingText t.name) = "</" ++ t.name ++ ">" :=
    String.toList_inj.1 (by simp [Line.closingText])
  rw [rows_eq, composed, List.map_cons, indented_zero, ofList_head]
  cases t.void with
  | true => rfl
  | false =>
    simp [List.map_flatMap, children, map_ofList_contentRows, closing]

/-! ### Subtrees -/

theorem Everywhere.descendant {P : Nat → Tag → Prop} {way : List Nat} (h : t.Everywhere P k)
    (found : t.descendant? way = some u) : u.Everywhere P (k + way.length) := by
  induction way generalizing t k with
  | nil =>
    cases found
    exact h
  | cons i way ih =>
    obtain ⟨child, here, below⟩ := Option.bind_eq_some_iff.1 found
    have deeper := ih (h.inside child (List.mem_of_getElem? here)) below
    rwa [Nat.add_right_comm] at deeper

/-- No void tag has children, so all of the tree is written. -/
theorem rows_infix_of_descendant {way : List Nat}
    (h : t.Everywhere (fun _ t => t.void = true → t.children = []) k)
    (found : t.descendant? way = some u) (j : Nat) : u.rows (j + way.length) <:+: t.rows j := by
  induction way generalizing t j k with
  | nil =>
    cases found
    exact List.infix_rfl
  | cons i way ih =>
    obtain ⟨child, here, below⟩ := Option.bind_eq_some_iff.1 found
    have mem := List.mem_of_getElem? here
    have opened : t.void = false := by
      by_contra void
      simp [h.here (by simpa using void)] at mem
    have deeper : u.rows (j + (way.length + 1)) <:+: child.rows (j + 1) := by
      rw [Nat.add_comm way.length 1, ← Nat.add_assoc]
      exact ih (h.inside child mem) below (j + 1)
    have among : child.rows (j + 1) <:+: t.children.flatMap (rows (j + 1)) :=
      List.infix_of_mem_flatten (List.mem_map_of_mem mem)
    have inside : t.children.flatMap (rows (j + 1)) <:+: t.rows j := by
      rw [rows_eq, opened]
      exact ⟨[_], _, by simp only [List.singleton_append, List.append_assoc]; rfl⟩
    exact (deeper.trans among).trans inside

end Tag

theorem Document.rows_infix {d : Document} {t : Tag} (mem : t ∈ d.entries.tags) :
    t.rows 0 <:+: d.rows := by
  obtain ⟨i, mem⟩ := Body.exists_of_mem_tags mem
  have among : t.rows 0 <:+: d.entries.rows :=
    List.infix_of_mem_flatten (List.mem_map.2 ⟨_, mem, rfl⟩)
  exact among.trans ⟨[_, _, _], [], by simp only [Document.rows, List.append_nil]; rfl⟩

theorem Document.rows_render (d : Document) :
    Text.rows d.render = (d.rows.flatMap (Text.pieces '\n')).map String.ofList ++ [""] := by
  rw [Text.rows, toList_render, ← List.append_nil (Tag.ended _), Text.pieces_ended_append]
  simp

/-- The text of a tag is made up of its head, of the lines of its children's texts and of its content
with one tab more, and of its closing tag. So a tag at a depth is written as its own text, each line
behind as many tabs; and where, as the operations keep it, void tags have no children, these lines
stand together in the text of a document that it is a part of. -/
theorem Tag.render_composed {t : Tag} (unbroken : t.Everywhere (fun _ t => t.Unbroken) 0) :
    Text.rows t.render = t.composed ∧ t.render = "\n".intercalate t.composed ∧
    (∀ k out, t.write k (out ++ tabs k) = out ++ "\n".intercalate (t.composed.map (tabs k ++ ·))) ∧
    (t.Everywhere (fun _ t => t.void = true → t.children = []) 0 →
      ∀ (d : Document) (way : List Nat) (u : Tag), t ∈ d.entries.tags → t.descendant? way = some u →
        (Text.rows u.render).map (tabs way.length ++ ·) <:+: Text.rows d.render) := by
  have own : Text.rows t.render = t.composed := by
    rw [rows_render unbroken, map_ofList_rows unbroken]
  refine ⟨own, ?_, fun k out => ?_, fun empty d way u mem found => ?_⟩
  · rw [← own, Text.rows, intercalate_pieces]
  · rw [write_eq_intercalate, t.rows_eq_map k, map_ofList_indented, map_ofList_rows unbroken]
  · have part : u.rows way.length <:+: t.rows 0 := by
      simpa using rows_infix_of_descendant empty found 0
    have whole := (Document.rows_infix mem).flatMap (Text.pieces '\n')
    rw [Text.flatMap_pieces (newline_not_mem_rows unbroken 0)] at whole
    rw [rows_render (unbroken.descendant found), ← map_ofList_indented, ← u.rows_eq_map,
      Document.rows_render]
    exact ((part.trans whole).map String.ofList).trans (List.prefix_append _ _).isInfix

namespace Tag

def knob : Tag where
  name := "knob"
  void := true
  properties := [{ name := "of", value := some "brass" }]

/-- A tag with content of two lines, and with tags in it up to a depth of two. -/
def cabinet : Tag where
  name := "cabinet"
  content := some "oak\nwax"
  children :=
    [{ name := "drawer", children := [knob], properties := [{ name := "open" }], shape := .list "knob" }]

def room : Document := { entries := .ofTags [cabinet], doctype := ⟨"rooms"⟩, version := .current }

theorem everywhere_cabinet :
    cabinet.Everywhere (fun _ t => t.Unbroken ∧ (t.void = true → t.children = [])) 0 := by
  refine .intro ⟨⟨by decide, by decide⟩, by decide⟩ ?_
  rw [cabinet, List.forall_mem_singleton]
  refine .intro ⟨⟨by decide, by decide⟩, by decide⟩ ?_
  rw [List.forall_mem_singleton]
  exact .intro ⟨⟨by decide, by decide⟩, by decide⟩ (by simp [knob])

theorem render_composed_cabinet :
    cabinet.render = "\n".intercalate ["<cabinet>", "\t<drawer open=\"\">", "\t\t<knob of=\"brass\" />",
      "\t</drawer>", "\toak", "\twax", "</cabinet>"] ∧
    ["\t\t<knob of=\"brass\" />"] <:+: Text.rows room.render := by
  have unbroken := everywhere_cabinet.imp fun _ _ h => h.1
  have empty := everywhere_cabinet.imp fun _ _ h => h.2
  obtain ⟨-, text, -, part⟩ := render_composed unbroken
  exact ⟨text, part empty room [0, 0] knob (by simp [room, Body.ofTags, Body.tags]) rfl⟩

end Tag
end TabMarkup
