import TabMarkup.Proofs.Writing.Rebuilding

/-!
Documents that are put together. What a nest is moved to by marks does not depend on the top-level
tags that it has already, and is moved as well inside of one more open tag. So texts behind the same
header can be joined, and a text can be put into a tag.
-/
namespace TabMarkup

/-- A mark in a tag stands one level deeper. -/
def Mark.deeper (m : Nat × Mark) : Nat × Mark := (m.1 + 1, m.2)

namespace Nest
variable {g : Scan.Setting} {n n' : Nest} {m : Nat × Mark} {ms : List (Nat × Mark)}

/-- What each step commutes with, the run commutes with. -/
theorem run_simulation {f : Nest → Nest} {r : Nat × Mark → Nat × Mark}
    (commutes : ∀ n n' m, n.step g m = some n' → (f n).step g (r m) = some (f n'))
    (h : n.run g ms = some n') : (f n).run g (ms.map r) = some (f n') := by
  induction ms generalizing n with
  | nil =>
    cases h
    rfl
  | cons m ms ih =>
    rw [run_cons, Option.bind_eq_some_iff] at h
    obtain ⟨n₁, first, rest⟩ := h
    rw [List.map_cons, run_cons, commutes n n₁ m first]
    exact ih rest

/-! ### Behind other entries -/

/-- A nest with entries before those of its body. -/
def behind (b : Body) (n : Nest) : Nest := { n with body := ⟨b.entries ++ n.body.entries⟩ }

theorem attach_behind (b : Body) (n : Nest) (t : Tag) (k : Nat) :
    (n.behind b).attach t k = (n.attach t k).behind b := by
  cases k with
  | zero => simp [attach, behind, Body.push]
  | succ k => rfl

theorem step_behind (b : Body) (h : n.step g m = some n') :
    (n.behind b).step g m = some (n'.behind b) := by
  obtain ⟨k, mark⟩ := m
  cases mark with
  | declaration d =>
    cases d with
    | doctype stylesheet =>
      obtain ⟨none, strict, rfl⟩ := declareDoctype_eq_some.1 h
      exact declareDoctype_eq_some.2 ⟨none, strict, rfl⟩
    | version number =>
      obtain ⟨none, rfl⟩ := declareVersion_eq_some.1 h
      exact declareVersion_eq_some.2 ⟨none, rfl⟩
  | opening name pairs =>
    obtain ⟨hk, fits, rfl⟩ := opening_eq_some.1 h
    exact opening_eq_some.2 ⟨hk, fits, rfl⟩
  | void name pairs =>
    obtain ⟨hk, fits, t, refined, rfl⟩ := void_eq_some.1 h
    exact void_eq_some.2 ⟨hk, fits, t, refined, (attach_behind b n t k).symm⟩
  | closing name =>
    obtain ⟨fs, f, t, hfs, hk, named, refined, rfl⟩ := closing_eq_some.1 h
    exact closing_eq_some.2 ⟨fs, f, t, hfs, hk, named, refined, (attach_behind b _ t k).symm⟩
  | blank =>
    cases h
    change some ((n.behind b).blank g.config) = _
    have same : (n.behind b).frames = n.frames := rfl
    simp only [blank, same]
    split <;> simp [behind, Body.pushBlank]
  | content line =>
    obtain ⟨fs, f, hfs, hk, short, rfl⟩ := content_eq_some.1 h
    exact content_eq_some.2 ⟨fs, f, hfs, hk, short, rfl⟩

theorem run_behind (b : Body) (h : n.run g ms = some n') :
    (n.behind b).run g ms = some (n'.behind b) := by
  simpa using run_simulation (fun _ _ _ => step_behind b) h

/-! ### Inside of a tag -/

/-- A nest in one more open tag, which has taken the tags of its body. -/
def inside (f : Frame) (n : Nest) : Nest :=
  { n with frames := { f with children := f.children ++ n.body.tags } :: n.frames, body := .empty }

theorem attach_inside (f : Frame) (n : Nest) (t : Tag) (k : Nat) :
    (n.inside f).attach t (k + 1) = (n.attach t k).inside f := by
  cases k with
  | zero => simp [attach, inside, Frame.addChild, Body.push, Body.tags]
  | succ k => rfl

theorem step_inside (f : Frame) (h : n.step g m = some n') :
    (n.inside f).step g (Mark.deeper m) = some (n'.inside f) := by
  obtain ⟨k, mark⟩ := m
  cases mark with
  | declaration d =>
    cases d with
    | doctype stylesheet =>
      obtain ⟨none, strict, rfl⟩ := declareDoctype_eq_some.1 h
      exact declareDoctype_eq_some.2 ⟨none, strict, rfl⟩
    | version number =>
      obtain ⟨none, rfl⟩ := declareVersion_eq_some.1 h
      exact declareVersion_eq_some.2 ⟨none, rfl⟩
  | opening name pairs =>
    obtain ⟨rfl, fits, rfl⟩ := opening_eq_some.1 h
    exact opening_eq_some.2 ⟨rfl, fits, rfl⟩
  | void name pairs =>
    obtain ⟨hk, fits, t, refined, rfl⟩ := void_eq_some.1 h
    exact void_eq_some.2 ⟨Nat.succ_le_succ hk, fits, t, refined, (attach_inside f n t k).symm⟩
  | closing name =>
    obtain ⟨fs, top, t, hfs, rfl, named, refined, rfl⟩ := closing_eq_some.1 h
    refine closing_eq_some.2 ⟨{ f with children := f.children ++ n.body.tags } :: fs, top, t, ?_, rfl,
      named, refined, ?_⟩
    · simp [inside, hfs]
    · exact (attach_inside f { n with frames := fs } t fs.length).symm
  | blank =>
    -- In the tag the blank line is no longer outside of every tag, and it was no tag of the body.
    cases h
    have kept : (n.inside f).blank g.config = n.inside f := by simp [blank, inside]
    have same : (n.blank g.config).inside f = n.inside f := by
      unfold blank
      split <;> simp [inside, Body.pushBlank, Body.tags]
    change some ((n.inside f).blank g.config) = _
    rw [kept, same]
  | content line =>
    obtain ⟨fs, top, hfs, rfl, short, rfl⟩ := content_eq_some.1 h
    refine content_eq_some.2 ⟨{ f with children := f.children ++ n.body.tags } :: fs, top, ?_, rfl, short,
      rfl⟩
    simp [inside, hfs]

theorem run_inside (f : Frame) (h : n.run g ms = some n') :
    (n.inside f).run g (ms.map Mark.deeper) = some (n'.inside f) :=
  run_simulation (fun _ _ _ => step_inside f) h

/-! ### Behind a header -/

/-- A nest in which nothing is done but the two declarations. -/
structure Ready (n : Nest) : Prop where
  frames : n.frames = []
  body : n.body = .empty
  declared : n.Declared

theorem ready_of_declarations {i j : Nat} {d e : Declaration} (frames : n.frames = [])
    (body : n.body = .empty) (h : n.run g [(i, .declaration d), (j, .declaration e)] = some n') :
    n'.Ready := by
  simp only [run_cons, run_nil, Option.bind_eq_some_iff, Option.some.injEq] at h
  obtain ⟨n₁, first, n₂, second, rfl⟩ := h
  cases d with
  | doctype stylesheet =>
    obtain ⟨-, -, made⟩ := declareDoctype_eq_some.1 first
    cases e with
    | doctype stylesheet' =>
      obtain ⟨none, -⟩ := declareDoctype_eq_some.1 second
      simp [made] at none
    | version number =>
      obtain ⟨-, rfl⟩ := declareVersion_eq_some.1 second
      subst made
      exact ⟨frames, body, rfl, rfl⟩
  | version number =>
    obtain ⟨-, made⟩ := declareVersion_eq_some.1 first
    cases e with
    | doctype stylesheet =>
      obtain ⟨-, -, rfl⟩ := declareDoctype_eq_some.1 second
      subst made
      exact ⟨frames, body, rfl, rfl⟩
    | version number' =>
      obtain ⟨none, -⟩ := declareVersion_eq_some.1 second
      simp [made] at none

/-- Where nothing is left open, what comes next is put behind what is there already. -/
theorem Ready.run_append (h : n.Ready) {n₁ n₂ : Nest} {ms₁ ms₂ : List (Nat × Mark)}
    (first : n.run g ms₁ = some n₁) (closed : n₁.frames = []) (second : n.run g ms₂ = some n₂) :
    n.run g (ms₁ ++ ms₂) = some (n₂.behind n₁.body) := by
  obtain ⟨⟨doctype, version⟩, -⟩ := h.declared.run first
  have reached : n.behind n₁.body = n₁ := by
    cases n₁
    simp_all [behind, h.frames, h.body, Body.empty]
  have behind := run_behind n₁.body second
  rw [reached] at behind
  rw [Nest.run_append, first, Option.bind_some, behind]

/-- The marks that put other marks into a tag of some name. -/
def wrap (t : String) (ms : List (Nat × Mark)) : List (Nat × Mark) :=
  (0, .opening t []) :: (ms.map Mark.deeper ++ [(0, .closing t)])

/-- In a tag, what was closed becomes the children of the tag. -/
theorem Ready.run_wrap (h : n.Ready) {n₁ : Nest} {t : String} {wrapper : Tag}
    (inner : n.run g ms = some n₁) (closed : n₁.frames = [])
    (refined : g.refineTag { name := t, closed := true, children := n₁.body.tags } = .ok wrapper) :
    n.run g (wrap t ms) = some { n with body := Body.empty.push wrapper } := by
  have fits : g.config.Fits [] := ⟨Nat.zero_le _, by simp⟩
  have opened : n.step g (0, .opening t []) = some (n.inside (.ofHead t [])) := by
    refine opening_eq_some.2 ⟨by simp [h.frames], fits, ?_⟩
    simp [inside, h.frames, h.body, Body.empty, Body.tags, Frame.ofHead]
  obtain ⟨⟨doctype, version⟩, -⟩ := h.declared.run inner
  have last : (n₁.inside (.ofHead t [])).step g (0, .closing t) =
      some { n with body := Body.empty.push wrapper } := by
    refine closing_eq_some.2 ⟨[], { Frame.ofHead t [] with children := n₁.body.tags }, wrapper, ?_, rfl,
      rfl, refined, ?_⟩
    · simp [inside, closed, Frame.ofHead]
    · simp [inside, attach, h.frames, doctype, version]
  rw [wrap, run_cons, opened, Option.bind_some, Nest.run_append, run_inside _ inner, Option.bind_some,
    run_cons, last]
  rfl

end Nest

/-! ### Texts -/

theorem Line.classify_tab (n : Nat) (raw : List Char) :
    classify n ('\t' :: raw) = { classify n raw with indent := (classify n raw).indent + 1 } := by
  simp [classify, Text.dropReturn_cons]

theorem Line.eq_of_kindOf_closing {body markup : List Char} (h : kindOf body = .closing markup) :
    markup = Text.trimEnd body := by
  simp only [kindOf] at h
  split at h
  · cases h
  · split at h
    · cases h
    · split at h
      · split at h
        · cases h
        · split at h <;> simp_all
      · split at h <;> cases h

namespace Mark
variable {c : Config} {h b t : String}

theorem readLine_tab (c : Config) (raw : List Char) :
    readLine c ('\t' :: raw) = (readLine c raw).map deeper := by
  simp only [readLine, Line.classify_tab]
  cases read c (Line.classify 0 raw).kind <;> rfl

theorem readLines_tab {ls : List (List Char)} {ms : List (Nat × Mark)}
    (read : ls.mapM (readLine c) = .ok ms) :
    (ls.map ('\t' :: ·)).mapM (readLine c) = .ok (ms.map deeper) := by
  induction ls generalizing ms with
  | nil =>
    cases read
    rfl
  | cons l ls ih =>
    rw [List.mapM_cons, bind_eq_ok] at read
    obtain ⟨m, first, read⟩ := read
    obtain ⟨ms, rest, ⟨⟩⟩ := bind_eq_ok.1 read
    rw [List.map_cons, List.mapM_cons, readLine_tab, first, ih rest]
    rfl

theorem readText_append (ended : Text.Ended h.toList) {ms : List (Nat × Mark)} :
    readText c (h ++ b) = .ok ms ↔
      ∃ ms₁ ms₂, readText c h = .ok ms₁ ∧ readText c b = .ok ms₂ ∧ ms = ms₁ ++ ms₂ := by
  simp only [readText, String.toList_append, Text.lines_append ended, List.mapM_append, bind_eq_ok,
    pure_eq_ok, Except.ok.injEq]
  constructor
  · rintro ⟨ms₁, first, ms₂, second, rfl⟩
    exact ⟨ms₁, ms₂, first, second, rfl⟩
  · rintro ⟨ms₁, ms₂, first, second, rfl⟩
    exact ⟨ms₁, first, ms₂, second, rfl⟩

/-- A text of two lines, one for each declaration. -/
def IsHeader (c : Config) (h : String) : Prop :=
  Text.Ended h.toList ∧ ∃ i j d e, readText c h = .ok [(i, .declaration d), (j, .declaration e)]

def openingLine (t : String) : List Char := '<' :: (t.toList ++ ['>'])

/-- The two lines around the inside of a tag can be read as such. -/
structure IsWrapper (c : Config) (t : String) : Prop where
  opening : ∃ name pairs, readLine c (openingLine t) = .ok (0, .opening name pairs)
  closing : ∃ name, readLine c (Line.closingText t) = .ok (0, .closing name)

theorem classify_bracket {cs : List Char} (n : Nat) :
    Line.classify n ('<' :: (cs ++ ['>'])) = ⟨n, 0, Line.kindOf ('<' :: (cs ++ ['>']))⟩ := by
  refine Line.classify_of_dropReturn n ?_ (by simp)
  rw [Text.dropReturn_of_getLast? (by simp [List.getLast?_cons])]
  rfl

theorem trimEnd_bracket (cs : List Char) :
    Text.trimEnd ('<' :: (cs ++ ['>'])) = '<' :: (cs ++ ['>']) :=
  Text.trimEnd_append_solid ('<' :: cs) rfl

/-- Such lines hold the name and nothing else. -/
theorem IsWrapper.readLines (h : IsWrapper c t) :
    Text.Solid t.toList ∧ readLine c (openingLine t) = .ok (0, .opening t []) ∧
      readLine c (Line.closingText t) = .ok (0, .closing t) := by
  obtain ⟨name, closing⟩ := h.closing
  obtain ⟨name', pairs, opening⟩ := h.opening
  obtain ⟨markup, kind, named⟩ := read_eq_closing.1 (readLine_eq_ok.1 closing).2
  obtain ⟨markup', kind', head⟩ := read_eq_opening.1 (readLine_eq_ok.1 opening).2
  rw [Line.closingText, ← List.cons_append, classify_bracket] at kind
  rw [openingLine, classify_bracket] at kind'
  obtain rfl := (Line.eq_of_kindOf_closing kind).trans (trimEnd_bracket _)
  obtain rfl := (Line.eq_of_kindOf_head (.inr kind')).1.trans (trimEnd_bracket _)
  obtain ⟨same, isName, solid⟩ := Head.closingName_eq_ok.1 named
  obtain rfl : t = name := String.toList_inj.1 (by simpa using same)
  have tagName : IsTagName t := isTagName_of_solid isName solid
  have written : '<' :: (t.toList ++ ['>']) = Head.write false t [] := by simp [Head.write, Head.ending]
  rw [written] at head
  obtain ⟨-, pair⟩ := (readHead_write_bare tagName).1 head
  have kept := Nest.respellName_of_solid solid []
  simp only [Head.respellName, if_true] at kept
  rw [kept] at pair
  cases pair
  exact ⟨solid, opening, closing⟩

end Mark

/-- A text with a header before it and a tag around it, on lines of their own. -/
def Text.wrapped (h t b : String) : String :=
  h ++ ("<" ++ t ++ ">\n" ++ (String.ofList (indent b.toList) ++ ("</" ++ t ++ ">\n")))

section
variable {c : Config} {h t b b₁ b₂ : String}

theorem Text.toList_wrapped (h t b : String) :
    (wrapped h t b).toList = h.toList ++ (Mark.openingLine t ++ '\n' ::
      (indent b.toList ++ (Line.closingText t ++ '\n' :: []))) := by
  simp [wrapped, Mark.openingLine, Line.closingText]

theorem Text.lines_wrapped (header : Ended h.toList) (body : Ended b.toList) (solid : Solid t.toList) :
    lines (wrapped h t b).toList =
      lines h.toList ++ (Mark.openingLine t ::
        ((lines b.toList).map ('\t' :: ·) ++ [Line.closingText t])) := by
  have name : '\n' ∉ t.toList := fun mem => by cases solid _ mem
  have opening : '\n' ∉ Mark.openingLine t := by simp [Mark.openingLine, name]
  have closing : '\n' ∉ Line.closingText t := by simp [Line.closingText, name]
  have kept : dropReturn (Mark.openingLine t) = Mark.openingLine t :=
    dropReturn_of_getLast? (by simp [Mark.openingLine, List.getLast?_cons])
  have kept' : dropReturn (Line.closingText t) = Line.closingText t :=
    dropReturn_of_getLast? (by simp [Line.closingText, List.getLast?_cons])
  rw [toList_wrapped, lines_append header, lines_append_mark opening, lines_append (ended_indent _),
    lines_indent body, lines_append_mark closing, kept, kept']
  rfl

theorem Mark.readText_wrapped {hs ms : List (Nat × Mark)} (header : Text.Ended h.toList)
    (body : Text.Ended b.toList) (wrapper : IsWrapper c t) (readHeader : readText c h = .ok hs)
    (readBody : readText c b = .ok ms) :
    readText c (Text.wrapped h t b) = .ok (hs ++ Nest.wrap t ms) := by
  obtain ⟨solid, opening, closing⟩ := wrapper.readLines
  have inner := readLines_tab readBody
  rw [readText] at readHeader ⊢
  rw [Text.lines_wrapped header body solid]
  simp [List.mapM_append, List.mapM_cons, readHeader, opening, inner, closing, Nest.wrap]

/-- The size of a text whose last line is ended is what counts for its lines. -/
theorem Config.admits_of_ended {text : String} (ended : Text.Ended text.toList)
    (small : text.utf8ByteSize ≤ c.maxSize)
    (shallow : ∀ l ∈ Text.lines text.toList, (Line.classify 0 l).indent ≤ c.maxDepth) :
    c.Admits (Text.lines text.toList) := by
  have counted := Text.size_lines_le_of_ended ended
  rw [← Text.utf8ByteSize_ofList, String.ofList_toList] at counted
  exact ⟨Nat.le_trans (Nat.min_le_left _ _) (Nat.le_trans counted small), shallow⟩

/-- In the empty context a scan ends with what the nest holds. -/
theorem Scan.scan_plain_eq_ok {text : String} {d : Document} :
    (scan (.plain c) text).result = .ok d ↔
      c.Admits (Text.lines text.toList) ∧
        ∃ ms n, Mark.readText c text = .ok ms ∧ Nest.run (.plain c) {} ms = some n ∧
          n.document? = some d := by
  rw [scan_eq_ok (Setting.stock_plain c)]
  have kept (d₀ : Document) : (Setting.plain c).refineDocument d₀ = .ok d₀ := rfl
  simp only [kept, Except.ok.injEq, exists_and_left, exists_eq_right]
  rfl

/-- What a header is followed by is read from where the header leads. -/
theorem Scan.scan_behind_header {d : Document} (header : Mark.IsHeader c h)
    (scanned : (scan (.plain c) (h ++ b)).result = .ok d) :
    c.Admits (Text.lines h.toList ++ Text.lines b.toList) ∧
      ∃ hs n ms n', Mark.readText c h = .ok hs ∧ Nest.run (.plain c) {} hs = some n ∧ n.Ready ∧
        Mark.readText c b = .ok ms ∧ n.run (.plain c) ms = some n' ∧ n'.document? = some d := by
  obtain ⟨ended, i, j, x, y, declarations⟩ := header
  obtain ⟨admitted, ms, n', read, run, document⟩ := scan_plain_eq_ok.1 scanned
  rw [String.toList_append, Text.lines_append ended] at admitted
  obtain ⟨hs, ms, first, second, rfl⟩ := (Mark.readText_append ended).1 read
  obtain rfl := Except.ok.inj (declarations.symm.trans first)
  rw [Nest.run_append, Option.bind_eq_some_iff] at run
  obtain ⟨n, start, rest⟩ := run
  exact ⟨admitted, _, n, ms, n', first, start, Nest.ready_of_declarations rfl rfl start, second, rest,
    document⟩

theorem Scan.scan_append {d₁ d₂ : Document} (header : Mark.IsHeader c h) (ended₁ : Text.Ended b₁.toList)
    (ended₂ : Text.Ended b₂.toList) (scanned₁ : (scan (.plain c) (h ++ b₁)).result = .ok d₁)
    (scanned₂ : (scan (.plain c) (h ++ b₂)).result = .ok d₂)
    (small : (h ++ b₁ ++ b₂).utf8ByteSize ≤ c.maxSize) :
    ∃ d, (scan (.plain c) (h ++ b₁ ++ b₂)).result = .ok d ∧
      d.entries.entries = d₁.entries.entries ++ d₂.entries.entries := by
  obtain ⟨⟨-, shallow₁⟩, hs, n, ms₁, n₁, readHeader, run, ready, read₁, run₁, document₁⟩ :=
    scan_behind_header header scanned₁
  obtain ⟨⟨-, shallow₂⟩, hs', n', ms₂, n₂, readHeader', run', -, read₂, run₂, document₂⟩ :=
    scan_behind_header header scanned₂
  obtain rfl := Except.ok.inj (readHeader.symm.trans readHeader')
  obtain rfl := Option.some.inj (run.symm.trans run')
  obtain ⟨closed₁, -, -, body₁, -⟩ := Nest.document?_eq_some.1 document₁
  obtain ⟨closed₂, doctype, version, body₂, single⟩ := Nest.document?_eq_some.1 document₂
  have read := (Mark.readText_append header.1).2
    ⟨hs, _, readHeader, (Mark.readText_append ended₁).2 ⟨ms₁, ms₂, read₁, read₂, rfl⟩, rfl⟩
  have whole : Nest.run (.plain c) {} (hs ++ (ms₁ ++ ms₂)) = some (n₂.behind n₁.body) := by
    rw [Nest.run_append, run]
    exact ready.run_append run₁ closed₁ run₂
  have admitted : c.Admits (Text.lines (h ++ (b₁ ++ b₂)).toList) := by
    refine Config.admits_of_ended ?_ (String.append_assoc ▸ small) ?_
    · simpa using header.1.append (ended₁.append ended₂)
    · rw [String.toList_append, String.toList_append, Text.lines_append header.1,
        Text.lines_append ended₁]
      simp only [List.forall_mem_append] at shallow₁ shallow₂ ⊢
      exact ⟨shallow₁.1, shallow₁.2, shallow₂.2⟩
  rw [String.append_assoc]
  refine ⟨{ d₂ with entries := (n₂.behind n₁.body).body }, scan_plain_eq_ok.2 ⟨admitted, _, _, read, whole,
    Nest.document?_eq_some.2 ⟨closed₂, doctype, version, rfl, single⟩⟩, ?_⟩
  rw [body₁, body₂]
  rfl

theorem Scan.scan_wrapped {d : Document} (header : Mark.IsHeader c h) (ended : Text.Ended b.toList)
    (wrapper : Mark.IsWrapper c t) (scanned : (scan (.plain c) (h ++ b)).result = .ok d)
    (small : (Text.wrapped h t b).utf8ByteSize ≤ c.maxSize)
    (shallow : ∀ l ∈ Text.lines b.toList, (Line.classify 0 l).indent + 1 ≤ c.maxDepth) :
    ∃ e, (scan (.plain c) (Text.wrapped h t b)).result = .ok e ∧
      e.entries.entries = #[some { name := t, closed := true, children := d.entries.tags }] := by
  obtain ⟨⟨-, shallow'⟩, hs, n, ms, n', readHeader, run, ready, read, inner, document⟩ :=
    scan_behind_header header scanned
  obtain ⟨closed, doctype, version, body, single⟩ := Nest.document?_eq_some.1 document
  obtain ⟨solid, -, -⟩ := wrapper.readLines
  have whole : Nest.run (.plain c) {} (hs ++ Nest.wrap t ms) = some { n with
      body := Body.empty.push { name := t, closed := true, children := n'.body.tags } } := by
    rw [Nest.run_append, run]
    exact ready.run_wrap inner closed rfl
  have admitted : c.Admits (Text.lines (Text.wrapped h t b).toList) := by
    refine Config.admits_of_ended ?_ small ?_
    · rw [Text.toList_wrapped]
      exact header.1.append ((Text.ended_append_mark _ _).2
        ((Text.ended_indent _).append ((Text.ended_append_mark _ _).2 Text.ended_nil)))
    · have top (cs : List Char) : (Line.classify 0 ('<' :: (cs ++ ['>']))).indent ≤ c.maxDepth := by
        rw [Mark.classify_bracket]
        exact Nat.zero_le _
      rw [Text.lines_wrapped header.1 ended solid]
      simp only [List.forall_mem_append, List.forall_mem_cons, List.forall_mem_map, Line.classify_tab,
        Mark.openingLine] at shallow' ⊢
      exact ⟨shallow'.1, top _, shallow, top ('/' :: t.toList), by simp⟩
  obtain ⟨⟨doctype', version'⟩, -⟩ := ready.declared.run inner
  refine ⟨{ d with entries := Body.empty.push { name := t, closed := true, children := n'.body.tags } },
    scan_plain_eq_ok.2 ⟨admitted, _, _, Mark.readText_wrapped header.1 ended wrapper readHeader read, whole,
      Nest.document?_eq_some.2 ⟨ready.frames, ?_, ?_, rfl, single⟩⟩, ?_⟩
  · exact doctype'.symm.trans doctype
  · exact version'.symm.trans version
  · rw [body]
    rfl

end

namespace Reader

/-- Texts behind the same header can be put together: what they hold comes one behind the other, and
in a tag that is put around it, what a text holds becomes the children of the tag. A text that is
accepted behind both declarations has none of its own. -/
theorem read_composed {c : Config} {h b₁ b₂ name : String} {s : Storage} {d₁ d₂ : Document}
    (header : Mark.IsHeader c h) (ended₁ : Text.Ended b₁.toList) (ended₂ : Text.Ended b₂.toList)
    (read₁ : ((ofText c name (h ++ b₁)).read .empty s).1.result = .ok d₁)
    (read₂ : ((ofText c name (h ++ b₂)).read .empty s).1.result = .ok d₂) :
    ((h ++ b₁ ++ b₂).utf8ByteSize ≤ c.maxSize →
      ∃ d, ((ofText c name (h ++ b₁ ++ b₂)).read .empty s).1.result = .ok d ∧
        d.entries.entries = d₁.entries.entries ++ d₂.entries.entries) ∧
    ∀ t, Mark.IsWrapper c t → (Text.wrapped h t b₁).utf8ByteSize ≤ c.maxSize →
      (∀ l ∈ Text.lines b₁.toList, (Line.classify 0 l).indent + 1 ≤ c.maxDepth) →
      ∃ d, ((ofText c name (Text.wrapped h t b₁)).read .empty s).1.result = .ok d ∧
        d.entries.entries = #[some { name := t, closed := true, children := d₁.entries.tags }] := by
  obtain ⟨-, scanned₁⟩ := read_memory.1 read₁
  obtain ⟨-, scanned₂⟩ := read_memory.1 read₂
  constructor
  · intro small
    obtain ⟨d, scanned, entries⟩ := Scan.scan_append header ended₁ ended₂ scanned₁ scanned₂ small
    exact ⟨d, read_memory.2 ⟨small, scanned⟩, entries⟩
  · intro t wrapper small shallow
    obtain ⟨d, scanned, entries⟩ := Scan.scan_wrapped header ended₁ wrapper scanned₁ small shallow
    exact ⟨d, read_memory.2 ⟨small, scanned⟩, entries⟩

/-- A tag with a blank line behind it, and a void tag: one behind the other, and the first in a list. -/
theorem read_composed_notes :
    let c : Config := { blankLines := .preserve }
    let h := "<!DOCTYPE skd notes>\n<!SKD version=\"0.2\">\n"
    let b₁ := "<a>\n\tx\n</a>\n\n"
    let b₂ := "<b />\n"
    let a : Tag := { name := "a", content := some "x", closed := true }
    (∃ d, ((ofText c "notes" (h ++ b₁ ++ b₂)).read .empty {}).1.result = .ok d ∧
      d.entries.entries = #[some a, none, some (.ofVoid "b" [])]) ∧
    ∃ d, ((ofText c "notes" (Text.wrapped h "list" b₁)).read .empty {}).1.result = .ok d ∧
      d.entries.entries = #[some { name := "list", closed := true, children := [a] }] := by
  have header : Mark.readText { blankLines := .preserve }
      "<!DOCTYPE skd notes>\n<!SKD version=\"0.2\">\n" =
      .ok [(0, .declaration (.doctype "notes")), (0, .declaration (.version "0.2"))] := rfl
  have ended : Text.Ended "<!DOCTYPE skd notes>\n<!SKD version=\"0.2\">\n".toList := by decide
  have tag : Mark.readText { blankLines := .preserve } "<a>\n\tx\n</a>\n\n" =
      .ok [(0, .opening "a" []), (1, .content "x"), (0, .closing "a"), (0, .blank)] := rfl
  have void : Mark.readText { blankLines := .preserve } "<b />\n" = .ok [(0, .void "b" [])] := rfl
  have first := Scan.scan_plain_eq_ok.2 ⟨by decide, _, _,
    (Mark.readText_append ended).2 ⟨_, _, header, tag, rfl⟩, rfl, rfl⟩
  have second := Scan.scan_plain_eq_ok.2 ⟨by decide, _, _,
    (Mark.readText_append ended).2 ⟨_, _, header, void, rfl⟩, rfl, rfl⟩
  have read₁ : ((ofText _ "notes" _).read .empty {}).1.result = _ := read_memory.2 ⟨by decide, first⟩
  have read₂ : ((ofText _ "notes" _).read .empty {}).1.result = _ := read_memory.2 ⟨by decide, second⟩
  have composed := read_composed ⟨ended, _, _, _, _, header⟩ (by decide) (by decide) read₁ read₂
  exact ⟨composed.1 (by decide), composed.2 "list" ⟨⟨_, _, rfl⟩, _, rfl⟩ (by decide) (by decide)⟩

end Reader
end TabMarkup
