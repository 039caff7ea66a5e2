import TabMarkup.Proofs.Writing.Faithful

/-!
Documents that are written and read again. The rows of a legible document are read, if none of
its heads is spoilt, as its declarations and its tags as they are read back.
-/
namespace TabMarkup

namespace Tag
variable {c : Config} {k : Nat} {t : Tag}

/-! ### Rows have no line ends inside -/

theorem newline_not_mem_writePairs {pairs : List (String × String)}
    (h : ∀ p ∈ pairs, '\n' ∉ p.1.toList ∧ '\n' ∉ p.2.toList) : '\n' ∉ writePairs pairs := by
  induction pairs with
  | nil => simp
  | cons p ps ih =>
    have here := h p (by simp)
    have rest := ih fun q hq => h q (by simp [hq])
    simp [writePair, here.1, here.2, rest]

theorem newline_not_mem_indented {body : List Char} (h : '\n' ∉ body) (k : Nat) :
    '\n' ∉ indented k body := by
  simp [indented, h]

/-- Names and values that stay on the line they are written on. -/
structure Unbroken (t : Tag) : Prop where
  name : '\n' ∉ t.name.toList
  pairs : ∀ p ∈ t.pairs, '\n' ∉ p.1.toList ∧ '\n' ∉ p.2.toList

theorem Legible.unbroken (h : t.Legible) : t.Unbroken := ⟨h.line, fun p hp => (h.pairs p hp).2⟩

theorem newline_not_mem_head (h : t.Unbroken) : '\n' ∉ Head.write t.void t.name t.pairs := by
  have pairs := newline_not_mem_writePairs h.pairs
  have ending : '\n' ∉ Head.ending t.void := by cases t.void <;> decide
  simp [Head.write, h.name, pairs, ending]

theorem newline_not_mem_rows (h : t.Everywhere (fun _ t => t.Unbroken) k) (j : Nat) :
    ∀ r ∈ t.rows j, '\n' ∉ r := by
  induction h generalizing j with
  | @intro k t here inside ih =>
    intro r hr
    rw [rows_eq] at hr
    rcases List.mem_cons.1 hr with rfl | hr
    · exact newline_not_mem_indented (newline_not_mem_head here) j
    · split at hr
      · cases hr
      · simp only [List.mem_append, List.mem_flatMap, List.mem_singleton] at hr
        rcases hr with (⟨u, hu, hr⟩ | hr) | rfl
        · exact ih u hu (j + 1) r hr
        · simp only [contentRows, List.mem_flatMap, List.mem_map] at hr
          obtain ⟨text, -, p, hp, rfl⟩ := hr
          exact newline_not_mem_indented (Text.not_mem_of_mem_pieces hp) (j + 1)
        · exact newline_not_mem_indented (by simp [Line.closingText, here.name]) j

/-! ### Depths -/

theorem depth_of_mem_marks (h : t.Everywhere (Tag.Sound c) k) :
    ∀ m ∈ t.marks k, m.1 ≤ c.maxDepth := by
  induction h with
  | @intro k t here inside ih =>
    intro m hm
    cases void : t.void with
    | true =>
      rw [marks_of_void void, List.mem_singleton] at hm
      rw [hm]
      exact here.2.depth
    | false =>
      rw [marks_of_opened void] at hm
      simp only [List.mem_cons, List.mem_append, List.mem_flatMap, List.not_mem_nil, or_false] at hm
      rcases hm with rfl | (⟨u, hu, hm⟩ | hm) | rfl
      · exact here.2.depth
      · exact ih u hu m hm
      · simp only [contentMarks, List.mem_flatMap, List.mem_map, Option.mem_toList] at hm
        obtain ⟨text, content, l, -, rfl⟩ := hm
        exact here.2.inner (by rw [Option.mem_def.1 content]; rfl)
      · exact here.2.depth

end Tag

theorem Mark.indent_of_readRows {c : Config} {rows : List (List Char)} {ms : List (Nat × Mark)}
    (h : readRows c rows = .ok ms) :
    ∀ l ∈ rows.map Text.dropReturn, ∃ m ∈ ms, (Line.classify 0 l).indent = m.1 := by
  induction rows generalizing ms with
  | nil => simp
  | cons r rs ih =>
    obtain ⟨m, ms', first, rest, rfl⟩ := readRows_cons.1 h
    intro l hl
    rcases List.mem_cons.1 hl with rfl | hl
    · exact ⟨m, by simp, (readLine_eq_ok.1 first).1⟩
    · obtain ⟨m', hm', same⟩ := ih rest l hl
      exact ⟨m', by simp [hm'], same⟩

/-! ### Entries -/

namespace Body

def entryMarks : Option Tag × Nat → List (Nat × Mark)
  | (some t, _) => t.marks 0
  | (none, 0) => []
  | (none, _ + 1) => [(0, .blank)]

def marks (b : Body) : List (Nat × Mark) := b.entries.toList.zipIdx.flatMap entryMarks

theorem mem_tags {b : Body} {t : Tag} {i : Nat} (h : (some t, i) ∈ b.entries.toList.zipIdx) :
    t ∈ b.tags := by
  have mem := List.fst_mem_of_mem_zipIdx h
  simpa [tags] using mem

theorem exists_of_mem_tags {b : Body} {t : Tag} (h : t ∈ b.tags) :
    ∃ i, (some t, i) ∈ b.entries.toList.zipIdx := by
  have mem : some t ∈ b.entries.toList := by simpa [tags] using h
  obtain ⟨i, hi⟩ := List.mem_iff_getElem?.1 mem
  exact ⟨i, List.mem_zipIdx_iff_getElem?.2 hi⟩

variable {b : Body} {c : Config}

theorem readRows_entries (legible : ∀ t ∈ b.tags, t.Everywhere (fun _ t => t.Legible) 0)
    (readable : ∀ t ∈ b.tags, t.Everywhere (fun _ t => t.Readable) 0) :
    Mark.readRows c b.rows = .ok b.marks := by
  apply Tag.readRows_flatMap
  rintro ⟨e, i⟩ he
  match e, i with
  | some t, i => exact Tag.readRows_rows (legible t (mem_tags he)) (readable t (mem_tags he))
  | none, 0 => rfl
  | none, i + 1 => rfl

theorem readable_of_readRows (legible : ∀ t ∈ b.tags, t.Everywhere (fun _ t => t.Legible) 0)
    {ms : List (Nat × Mark)} (read : Mark.readRows c b.rows = .ok ms) (undeclared : Tag.Undeclared ms) :
    ∀ t ∈ b.tags, t.Everywhere (fun _ t => t.Readable) 0 := by
  intro t ht
  obtain ⟨i, hi⟩ := exists_of_mem_tags ht
  obtain ⟨ns, hns, quiet⟩ := Tag.exists_readRows_of_flatMap read undeclared _ hi
  exact Tag.readable_of_readRows (legible t ht) hns quiet

end Body

namespace Nest
variable {g : Scan.Setting} {n : Nest}

/-- What an entry makes of a nest without open tags. -/
def takeEntry (g : Scan.Setting) (n : Nest) : Option Tag × Nat → Nest
  | (some t, _) => n.attach (t.reread g) 0
  | (none, 0) => n
  | (none, _ + 1) => n.blank g.config

theorem run_entries (hg : g.Reshaping) {es : List (Option Tag × Nat)}
    (h : ∀ t i, (some t, i) ∈ es → t.Everywhere (Tag.Sound g.config) 0)
    (hn : n.frames = []) :
    n.run g (es.flatMap Body.entryMarks) = some (es.foldl (takeEntry g) n) ∧
      (es.foldl (takeEntry g) n).frames = [] := by
  induction es generalizing n with
  | nil => exact ⟨rfl, hn⟩
  | cons e es ih =>
    have here : n.run g (Body.entryMarks e) = some (n.takeEntry g e) ∧
        (n.takeEntry g e).frames = [] := by
      match e with
      | (some t, i) =>
        exact ⟨run_marks hg (h t i (by simp)) (by rw [hn]; rfl), hn⟩
      | (none, 0) => exact ⟨rfl, hn⟩
      | (none, i + 1) =>
        refine ⟨rfl, ?_⟩
        simp only [takeEntry, Nest.blank]
        split <;> exact hn
    obtain ⟨rest, closed⟩ := ih (fun t i ht => h t i (by simp [ht])) here.2
    rw [List.flatMap_cons, run_append, here.1, List.foldl_cons]
    exact ⟨rest, closed⟩

theorem foldl_takeEntry (g : Scan.Setting) (es : List (Option Tag × Nat)) (n : Nest) :
    (es.foldl (takeEntry g) n).doctype = n.doctype ∧ (es.foldl (takeEntry g) n).version = n.version ∧
      (es.foldl (takeEntry g) n).body.tags =
        n.body.tags ++ (es.filterMap Prod.fst).map (Tag.reread g) := by
  induction es generalizing n with
  | nil => simp
  | cons e es ih =>
    rw [List.foldl_cons]
    obtain ⟨doctype, version, tags⟩ := ih (n.takeEntry g e)
    rw [doctype, version, tags]
    match e with
    | (some t, i) => simp [takeEntry, attach, Body.push, Body.tags]
    | (none, 0) => simp [takeEntry]
    | (none, i + 1) =>
      simp only [takeEntry, Nest.blank]
      split <;> simp [Body.pushBlank, Body.tags]

end Nest

/-- No entry is a blank line. -/
def Body.Dense (b : Body) : Prop := b.entries.toList = b.tags.map some

theorem Body.Dense.push {b : Body} (h : b.Dense) (t : Tag) : (b.push t).Dense := by
  have all : b.entries.toList = b.tags.map some := h
  simp only [Dense, Body.push, Body.tags, Array.toList_push, List.filterMap_append, List.map_append]
  rw [← Body.tags, ← all]
  rfl

theorem Nest.dense_blank {n : Nest} {c : Config} (skip : c.blankLines = .skip) : n.blank c = n := by
  simp [Nest.blank, skip]

theorem Nest.dense_foldl {g : Scan.Setting} (skip : g.config.blankLines = .skip)
    (es : List (Option Tag × Nat)) {n : Nest} (h : n.body.Dense) :
    (es.foldl (Nest.takeEntry g) n).body.Dense := by
  induction es generalizing n with
  | nil => exact h
  | cons e es ih =>
    rw [List.foldl_cons]
    apply ih
    match e with
    | (some t, i) => exact h.push _
    | (none, 0) => exact h
    | (none, i + 1) =>
      simp only [takeEntry, dense_blank skip]
      exact h

/-! ### Declarations -/

namespace Mark

theorem readLine_declaration {c : Config} {text : List Char} {d : Declaration}
    (bracket : ∃ cs, text = '<' :: (cs ++ ['>'])) (kind : Line.kindOf text = .declaration text)
    (parsed : Declaration.parse text = .ok d) :
    readLine c (Text.dropReturn text) = .ok (0, .declaration d) := by
  obtain ⟨cs, rfl⟩ := bracket
  have row := readLine_bracket (c := c) (k := 0) cs '<' (by decide)
  rw [kind, read, parsed] at row
  exact row

theorem readLine_doctype (c : Config) {s : String} (h : IsStylesheet s) :
    readLine c (Text.dropReturn (Declaration.doctypeText s)) = .ok (0, .declaration (.doctype s)) :=
  readLine_declaration
    ⟨'!' :: (['D', 'O', 'C', 'T', 'Y', 'P', 'E', ' ', 's', 'k', 'd', ' '] ++ s.toList), rfl⟩
    (Declaration.kindOf_doctypeText s) (Declaration.parse_doctypeText h)

theorem readLine_version (c : Config) {s : String} (h : IsValue s) :
    readLine c (Text.dropReturn (Declaration.versionText s)) = .ok (0, .declaration (.version s)) := by
  have bracket : Declaration.versionText s =
      '<' :: ('!' :: (['S', 'K', 'D', ' ', 'v', 'e', 'r', 's', 'i', 'o', 'n', '=', '"'] ++ s.toList ++
        ['"']) ++ ['>']) := by
    simp [Declaration.versionText]
  exact readLine_declaration ⟨_, bracket⟩ (Declaration.kindOf_versionText s)
    (Declaration.parse_versionText h)

end Mark

/-! ### Documents -/

/-- What a document shows can be written so that it can be read. -/
structure Document.Legible (d : Document) : Prop where
  stylesheet : IsStylesheet d.doctype.stylesheet
  version : IsValue d.version.number
  line : '\n' ∉ d.version.number.toList
  tags : ∀ t ∈ d.entries.tags, t.Everywhere (fun _ t => t.Legible) 0

/-- A text is within the limits of a configuration, and so are the tags of its document. -/
structure Config.HoldsDocument (c : Config) (d : Document) : Prop where
  size : d.render.utf8ByteSize ≤ c.maxSize
  tags : ∀ t ∈ d.entries.tags, t.Everywhere c.Holds 0

namespace Document
variable {d e : Document} {c : Config}

theorem newline_not_mem_rows (h : d.Legible) : ∀ r ∈ d.rows, '\n' ∉ r := by
  intro r hr
  simp only [rows, List.mem_cons] at hr
  rcases hr with rfl | rfl | rfl | hr
  · have solid : '\n' ∉ d.doctype.stylesheet.toList := fun mem => by
      have := h.stylesheet.2.1 '\n' mem
      simp [Text.isBlank] at this
    simp [Declaration.doctypeText, solid]
  · simp [Declaration.versionText, h.line]
  · simp
  · simp only [Body.rows, List.mem_flatMap] at hr
    obtain ⟨⟨entry, i⟩, he, hr⟩ := hr
    cases entry with
    | some t =>
      have unbroken := (h.tags t (Body.mem_tags he)).imp fun _ _ legible => legible.unbroken
      exact Tag.newline_not_mem_rows unbroken 0 r hr
    | none =>
      cases i with
      | zero => cases hr
      | succ i =>
        obtain rfl : r = [] := by simpa [Body.entryRows] using hr
        simp

def opening (d : Document) : List (Nat × Mark) :=
  [(0, .declaration (.doctype d.doctype.stylesheet)), (0, .declaration (.version d.version.number)),
    (0, .blank)]

theorem readText_rows (h : d.Legible) : Mark.readText c d.render = Mark.readRows c d.rows := by
  rw [Mark.readText, lines_render (newline_not_mem_rows h), Mark.readRows]

theorem readText_render (h : d.Legible) {ms : List (Nat × Mark)} :
    Mark.readText c d.render = .ok ms ↔
      ∃ ns, Mark.readRows c d.entries.rows = .ok ns ∧ ms = d.opening ++ ns := by
  have doctype := Mark.readLine_doctype c h.stylesheet
  have version := Mark.readLine_version c h.version
  rw [readText_rows h, Document.rows]
  simp only [Mark.readRows_cons]
  constructor
  · rintro ⟨m₁, _, first, ⟨m₂, _, second, ⟨m₃, ns, third, rest, rfl⟩, rfl⟩, rfl⟩
    cases doctype.symm.trans first
    cases version.symm.trans second
    cases (Mark.readLine_empty c).symm.trans third
    exact ⟨ns, rest, rfl⟩
  · rintro ⟨ns, rest, rfl⟩
    exact ⟨_, _, doctype, ⟨_, _, version, ⟨_, ns, Mark.readLine_empty c, rest, rfl⟩, rfl⟩, rfl⟩

def declared (d : Document) : Nest := { doctype := some d.doctype, version := some d.version }

theorem run_opening {g : Scan.Setting}
    (strict : g.config.strictDoctypes = true → g.knows d.doctype = true) :
    Nest.run g {} d.opening = some (d.declared.blank g.config) := by
  have doctype : Nest.step g {} (0, .declaration (.doctype d.doctype.stylesheet)) =
      some { doctype := some d.doctype } := Nest.declareDoctype_eq_some.2 ⟨rfl, strict, rfl⟩
  have version : Nest.step g { doctype := some d.doctype }
      (0, .declaration (.version d.version.number)) = some d.declared :=
    (Nest.declareVersion_eq_some (n := { doctype := some d.doctype })).2 ⟨rfl, rfl⟩
  rw [opening, Nest.run_cons, doctype, Option.bind_some, Nest.run_cons, version]
  rfl

theorem blank_declared (d : Document) (c : Config) :
    (d.declared.blank c).frames = [] ∧ (d.declared.blank c).doctype = some d.doctype ∧
      (d.declared.blank c).version = some d.version ∧ (d.declared.blank c).body.tags = [] := by
  unfold Nest.blank
  split <;> exact ⟨rfl, rfl, rfl, rfl⟩

/-- The nest that the marks of a document lead to. -/
def reached (g : Scan.Setting) (d : Document) : Nest :=
  d.entries.entries.toList.zipIdx.foldl (Nest.takeEntry g) (d.declared.blank g.config)

theorem run_marks {g : Scan.Setting} (hg : g.Reshaping)
    (strict : g.config.strictDoctypes = true → g.knows d.doctype = true)
    (h : ∀ t ∈ d.entries.tags, t.Everywhere (Tag.Sound g.config) 0) :
    Nest.run g {} (d.opening ++ d.entries.marks) = some (d.reached g) ∧ (d.reached g).frames = [] := by
  obtain ⟨entries, closed⟩ := Nest.run_entries hg
    (fun t i (ht : (some t, i) ∈ d.entries.entries.toList.zipIdx) => h t (Body.mem_tags ht))
    (blank_declared d g.config).1
  refine ⟨?_, closed⟩
  rw [Nest.run_append, run_opening strict, Option.bind_some]
  exact entries

/-- It has the declarations of the document and the tags as they are read back. -/
theorem reached_keeps (g : Scan.Setting) (d : Document) :
    (d.reached g).doctype = some d.doctype ∧ (d.reached g).version = some d.version ∧
      (d.reached g).body.tags = d.entries.tags.map (Tag.reread g) := by
  obtain ⟨-, doctype, version, tags⟩ := blank_declared d g.config
  obtain ⟨doctype', version', tags'⟩ := Nest.foldl_takeEntry g d.entries.entries.toList.zipIdx
    (d.declared.blank g.config)
  have found : d.entries.entries.toList.zipIdx.filterMap Prod.fst = d.entries.tags := by
    have unzipped := List.filterMap_map (f := Prod.fst) (g := id) (l := d.entries.entries.toList.zipIdx)
    rw [List.zipIdx_map_fst] at unzipped
    exact unzipped.symm
  rw [tags, found, List.nil_append] at tags'
  exact ⟨doctype'.trans doctype, version'.trans version, tags'⟩

theorem dense_reached {g : Scan.Setting} (skip : g.config.blankLines = .skip) (d : Document) :
    (d.reached g).body.Dense := by
  apply Nest.dense_foldl skip
  rw [Nest.dense_blank skip]
  rfl

theorem admits_render (legible : d.Legible) (size : d.render.utf8ByteSize ≤ c.maxSize)
    {ms : List (Nat × Mark)} (read : Mark.readRows c d.rows = .ok ms)
    (depth : ∀ m ∈ ms, m.1 ≤ c.maxDepth) : c.Admits (Text.lines d.render.toList) := by
  have lines := size_lines_render (newline_not_mem_rows legible)
  refine ⟨?_, ?_⟩
  · exact Nat.le_trans (Nat.min_le_left _ _) (Nat.le_trans lines size)
  · intro l hl
    rw [lines_render (newline_not_mem_rows legible)] at hl
    obtain ⟨m, hm, indent⟩ := Mark.indent_of_readRows read l hl
    exact indent ▸ depth m hm

theorem depth_of_mem_marks
    (h : ∀ t ∈ d.entries.tags, t.Everywhere (Tag.Sound c) 0) :
    ∀ m ∈ d.opening ++ d.entries.marks, m.1 ≤ c.maxDepth := by
  intro m hm
  rcases List.mem_append.1 hm with hm | hm
  · simp only [opening, List.mem_cons, List.not_mem_nil, or_false] at hm
    rcases hm with rfl | rfl | rfl <;> exact Nat.zero_le _
  · simp only [Body.marks, List.mem_flatMap] at hm
    obtain ⟨⟨entry, i⟩, he, hm⟩ := hm
    match entry, i with
    | some t, i => exact Tag.depth_of_mem_marks (h t (Body.mem_tags he)) m hm
    | none, 0 => cases hm
    | none, i + 1 =>
      obtain rfl : m = (0, .blank) := by simpa [Body.entryMarks] using hm
      exact Nat.zero_le _

/-- A document whose heads are readable is read back. -/
theorem scan_render {g : Scan.Setting} (hg : g.Stock) (reshaping : g.Reshaping)
    (strict : g.config.strictDoctypes = true → g.knows d.doctype = true) (legible : d.Legible)
    (within : g.config.HoldsDocument d)
    (readable : ∀ t ∈ d.entries.tags, t.Everywhere (fun _ t => t.Readable) 0) :
    ∃ singleton, (Scan.scan g d.render).result = .ok {
      entries := (d.reached g).body
      doctype := d.doctype
      version := d.version
      singleton } := by
  have both : ∀ t ∈ d.entries.tags, t.Everywhere (Tag.Sound g.config) 0 :=
    fun t ht => (legible.tags t ht).both (within.tags t ht) fun _ _ h h' => ⟨h, h'⟩
  have rows := Body.readRows_entries (c := g.config) legible.tags readable
  have read := (readText_render legible).2 ⟨_, rows, rfl⟩
  obtain ⟨run, closed⟩ := run_marks reshaping strict both
  obtain ⟨doctype, version, -⟩ := reached_keeps g d
  have admitted := admits_render legible within.size (by rw [← readText_rows legible]; exact read)
    (depth_of_mem_marks both)
  obtain ⟨singleton, refined⟩ := reshaping.documents
    { entries := (d.reached g).body, doctype := d.doctype, version := d.version }
  have ended : (d.reached g).document? =
      some { entries := (d.reached g).body, doctype := d.doctype, version := d.version } :=
    Nest.document?_eq_some.2 ⟨closed, doctype, version, rfl, rfl⟩
  exact ⟨singleton, (Scan.scan_eq_ok hg).2 ⟨admitted, _, _, _, read, run, ended, refined⟩⟩

/-- A legible document that is read back at all has readable heads. -/
theorem readable_of_scan_render {g : Scan.Setting} (hg : g.Stock) (legible : d.Legible)
    (read : (Scan.scan g d.render).result = .ok e) :
    ∀ t ∈ d.entries.tags, t.Everywhere (fun _ t => t.Readable) 0 := by
  obtain ⟨-, marks, n, d₀, read, run, -, -⟩ := (Scan.scan_eq_ok hg).1 read
  obtain ⟨ns, rows, rfl⟩ := (readText_render legible).1 read
  rw [Nest.run_append, Option.bind_eq_some_iff] at run
  obtain ⟨n₁, first, rest⟩ := run
  have declared : n₁.Declared := by
    rw [opening, Nest.run_cons, Option.bind_eq_some_iff] at first
    obtain ⟨a, doctype, first⟩ := first
    rw [Nest.run_cons, Option.bind_eq_some_iff] at first
    obtain ⟨b, version, last⟩ := first
    obtain ⟨-, -, rfl⟩ := Nest.declareDoctype_eq_some.1 doctype
    obtain ⟨-, rfl⟩ :=
      (Nest.declareVersion_eq_some (n := { doctype := some d.doctype })).1 version
    cases last
    unfold Nest.blank
    split <;> simp [Nest.Declared]
  exact Body.readable_of_readRows legible.tags rows (declared.run rest).2

theorem matching_reached (g : Scan.Setting) (d : Document) (singleton : Bool) :
    d.matching {
        entries := (d.reached g).body
        doctype := d.doctype
        version := d.version
        singleton } = true ↔
      ∀ t ∈ d.entries.tags, t.matching (t.reread g) = true := by
  simp only [matching_eq_true, true_and, Body.matching, Body.tagCount, (reached_keeps g d).2.2,
    List.length_map, beq_self_eq_true, Bool.true_and, List.all_eq_true]
  exact Tag.zip_map_all

/-- A legible document within the limits is read back as it was exactly if all its tags are
faithful. -/
theorem scan_render_iff {g : Scan.Setting} (hg : g.Stock) (reshaping : g.Reshaping)
    (strict : g.config.strictDoctypes = true → g.knows d.doctype = true) (legible : d.Legible)
    (within : g.config.HoldsDocument d) :
    (∃ e, (Scan.scan g d.render).result = .ok e ∧ d.matching e = true ∧
        (g.config.blankLines = .skip → e.entries.Dense)) ↔
      ∀ t ∈ d.entries.tags, t.Everywhere (fun _ t => t.Faithful) 0 := by
  constructor
  · rintro ⟨e, read, same, -⟩ t ht
    have readable := readable_of_scan_render hg legible read
    obtain ⟨singleton, again⟩ := scan_render hg reshaping strict legible within readable
    cases again.symm.trans read
    have matched := (matching_reached g d singleton).1 same t ht
    have kept := (Tag.matching_reread reshaping (legible.tags t ht)).1 matched
    exact kept.both (readable t ht) fun _ _ kept readable => ⟨kept, readable.modern⟩
  · intro faithful
    have readable : ∀ t ∈ d.entries.tags, t.Everywhere (fun _ t => t.Readable) 0 := fun t ht =>
      (faithful t ht).both (legible.tags t ht) fun _ _ faithful legible => faithful.readable legible
    obtain ⟨singleton, read⟩ := scan_render hg reshaping strict legible within readable
    refine ⟨_, read, (matching_reached g d singleton).2 fun t ht => ?_,
      fun skip => dense_reached skip d⟩
    have kept := (faithful t ht).imp fun _ _ h => h.toKept
    exact (Tag.matching_reread reshaping (legible.tags t ht)).2 kept

end Document
end TabMarkup
