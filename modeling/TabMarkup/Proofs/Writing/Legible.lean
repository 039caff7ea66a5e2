import TabMarkup.Proofs.Writing.Rows

/-!
Legible tags: tags whose rows can be read again. What is read back is what was written, but for
blanks and carriage returns at some ends, and but for tags that look like a legacy declaration.
-/
namespace TabMarkup

/-- A predicate of depths and tags holds of a tag and of all tags in it. -/
inductive Tag.Everywhere (P : Nat → Tag → Prop) : Nat → Tag → Prop where
  | intro {k : Nat} {t : Tag} (here : P k t) (inside : ∀ u ∈ t.children, Everywhere P (k + 1) u) :
      Everywhere P k t

namespace Tag.Everywhere
variable {P Q R : Nat → Tag → Prop} {k : Nat} {t : Tag}

theorem here : Everywhere P k t → P k t
  | intro here _ => here

theorem inside : Everywhere P k t → ∀ u ∈ t.children, Everywhere P (k + 1) u
  | intro _ inside => inside

theorem imp (h : Everywhere P k t) (hPQ : ∀ k t, P k t → Q k t) : Everywhere Q k t := by
  induction h with
  | intro here _ ih => exact .intro (hPQ _ _ here) ih

theorem both (h : Everywhere P k t) (h' : Everywhere Q k t) (hR : ∀ k t, P k t → Q k t → R k t) :
    Everywhere R k t := by
  induction h with
  | intro here _ ih => exact .intro (hR _ _ here h'.here) fun u hu => ih u hu (h'.inside u hu)

end Tag.Everywhere

/-! ### Lines of content -/

/-- A line of content holds a character that is no blank, and begins like content. -/
structure IsContentLine (l : List Char) : Prop where
  solid : ∃ c ∈ l, Text.isBlank c = false
  tab : l.head? ≠ some '\t'
  bracket : l.head? ≠ some '<'

namespace IsContentLine

theorem ne_nil {l : List Char} (h : IsContentLine l) : l ≠ [] := by
  rintro rfl
  obtain ⟨c, hc, -⟩ := h.solid
  cases hc

theorem dropReturn {l : List Char} (h : IsContentLine l) : IsContentLine (Text.dropReturn l) := by
  unfold Text.dropReturn
  split
  · rename_i last
    obtain ⟨ds, rfl⟩ := List.getLast?_eq_some_iff.1 last
    obtain ⟨c, hc, solid⟩ := h.solid
    have kept : c ∈ ds := by
      rcases List.mem_append.1 hc with hc | hc
      · exact hc
      · obtain rfl := List.mem_singleton.1 hc
        cases solid
    have head : (ds ++ ['\r']).head? = ds.head? := by
      cases ds with
      | nil => cases kept
      | cons d ds => rfl
    rw [List.dropLast_concat]
    exact ⟨⟨c, kept, solid⟩, head ▸ h.tab, head ▸ h.bracket⟩
  · exact h

end IsContentLine

/-- A line of content as it is read back: it is read less two carriage returns at its end. -/
def Text.respellLine (l : List Char) : List Char := Text.dropReturn (Text.dropReturn l)

theorem Text.dropReturn_append {l : List Char} (h : l ≠ []) (cs : List Char) :
    dropReturn (cs ++ l) = cs ++ dropReturn l := by
  rcases List.eq_nil_or_concat l with rfl | ⟨ds, d, rfl⟩
  · exact absurd rfl h
  · rw [List.concat_eq_append, ← List.append_assoc]
    unfold dropReturn
    by_cases hd : d = '\r' <;> simp [hd]

/-! ### Legible tags -/

/-- A name and pairs that can be written into a head. -/
structure IsHead (s : String) (ps : List (String × String)) : Prop where
  name : IsTagName s
  plain : s.toList.head? ≠ some '!'
  line : '\n' ∉ s.toList
  pairs : ∀ p ∈ ps, (IsKey p.1 ∧ IsValue p.2) ∧ '\n' ∉ p.1.toList ∧ '\n' ∉ p.2.toList

/-- All that a tag shows is written so that some reading of its rows makes sense of it. -/
structure Tag.Legible (t : Tag) : Prop extends IsHead t.name t.pairs where
  valued : ∀ p ∈ t.properties, p.value.isSome = true
  distinct : t.pairs.Nodup
  content : ∀ text ∈ t.content, ∀ l ∈ Text.pieces '\n' text.toList, IsContentLine l
  solid : t.void = false → Text.Solid t.name.toList
  void : t.void = true → t.content = none ∧ t.children = []

/-- A head that is read back as the head of a tag. -/
structure Tag.Readable (t : Tag) : Prop where
  modern : t.name ≠ Line.legacyName
  name : Head.respellName t.name t.pairs ≠ ""
  keys : ∀ p ∈ Head.respellPairs t.pairs, p.1 ≠ ""

namespace Tag

/-! ### Marks of rows -/

def contentMarks (k : Nat) (content : Option String) : List (Nat × Mark) :=
  content.toList.flatMap fun text =>
    (Text.pieces '\n' text.toList).map fun l => (k, .content (String.ofList (Text.respellLine l)))

mutual
/-- What the rows of a tag at an indentation say. -/
def marks (k : Nat) : Tag → List (Nat × Mark)
  | ⟨name, content, void, _, children, properties, _⟩ =>
    let name' := Head.respellName name (properties.map Property.pair)
    let pairs := Head.respellPairs (properties.map Property.pair)
    if void then [(k, .void name' pairs)]
    else (k, .opening name' pairs) :: (marksAll (k + 1) children ++ contentMarks (k + 1) content ++
      [(k, .closing name)])
def marksAll (k : Nat) : List Tag → List (Nat × Mark)
  | [] => []
  | t :: ts => marks k t ++ marksAll k ts
end

theorem marksAll_eq (k : Nat) (ts : List Tag) : marksAll k ts = ts.flatMap (marks k) := by
  induction ts with
  | nil => rfl
  | cons t ts ih => rw [marksAll, ih, List.flatMap_cons]

theorem marks_of_void {t : Tag} (h : t.void = true) (k : Nat) :
    t.marks k = [(k, .void (Head.respellName t.name t.pairs) (Head.respellPairs t.pairs))] := by
  cases t
  simp only at h
  simp only [marks, h, if_true, pairs]

theorem marks_of_opened {t : Tag} (h : t.void = false) (k : Nat) :
    t.marks k = (k, .opening (Head.respellName t.name t.pairs) (Head.respellPairs t.pairs)) ::
      (t.children.flatMap (marks (k + 1)) ++ contentMarks (k + 1) t.content ++
        [(k, .closing t.name)]) := by
  cases t
  simp only at h
  simp only [marks, h, marksAll_eq, Bool.false_eq_true, if_false, pairs]

end Tag

/-! ### Reading rows -/

namespace Mark
variable {c : Config} {k : Nat}

theorem readLine_row {body : List Char} (ne : body ≠ []) (ne' : Text.dropReturn body ≠ [])
    (tab : (Text.respellLine body).head? ≠ some '\t') :
    readLine c (Text.dropReturn (Tag.indented k body)) =
      (read c (Line.kindOf (Text.respellLine body))).map (k, ·) := by
  have dropped : Text.dropReturn (Text.dropReturn (Tag.indented k body)) =
      List.replicate k '\t' ++ Text.respellLine body := by
    rw [Tag.indented, Text.dropReturn_append ne, Text.dropReturn_append ne']
    rfl
  simp only [readLine, Line.classify_of_dropReturn 0 dropped tab]

theorem readLine_bracket (body : List Char) (first : Char) (tab : first ≠ '\t') :
    readLine c (Text.dropReturn (Tag.indented k (first :: (body ++ ['>'])))) =
      (read c (Line.kindOf (first :: (body ++ ['>'])))).map (k, ·) := by
  have last : (first :: (body ++ ['>'])).getLast? ≠ some '\r' := by
    rw [← List.cons_append, List.getLast?_concat]
    simp
  have once := Text.dropReturn_of_getLast? last
  have same : Text.respellLine (first :: (body ++ ['>'])) = first :: (body ++ ['>']) := by
    rw [Text.respellLine, once, once]
  have row := readLine_row (c := c) (k := k) (List.cons_ne_nil first (body ++ ['>']))
    (by rw [once]; exact List.cons_ne_nil _ _) (by rw [same]; simpa using tab)
  rw [same] at row
  exact row

theorem write_bracket (void : Bool) (name : String) (pairs : List (String × String)) :
    ∃ cs, Head.write void name pairs = '<' :: (cs ++ ['>']) := by
  cases void with
  | false => exact ⟨name.toList ++ writePairs pairs, rfl⟩
  | true => exact ⟨name.toList ++ writePairs pairs ++ [' ', '/'], by simp [Head.write, Head.ending]⟩

theorem readLine_head (c : Config) (k : Nat) {t : Tag} (h : t.Legible)
    (modern : t.name ≠ Line.legacyName)
    {m : Nat × Mark} :
    readLine c (Text.dropReturn (Tag.indented k (Head.write t.void t.name t.pairs))) = .ok m ↔
      t.Readable ∧ m = (k,
        if t.void then .void (Head.respellName t.name t.pairs) (Head.respellPairs t.pairs)
        else .opening (Head.respellName t.name t.pairs) (Head.respellPairs t.pairs)) := by
  obtain ⟨cs, hcs⟩ := write_bracket t.void t.name t.pairs
  have row := readLine_bracket (c := c) (k := k) cs '<' (by decide)
  rw [← hcs, Line.kindOf_write h.name h.plain modern] at row
  have legible := fun p hp => (h.pairs p hp).1
  rw [row]
  have readable : t.Readable ↔ Head.respellName t.name t.pairs ≠ "" ∧
      ∀ p ∈ Head.respellPairs t.pairs, p.1 ≠ "" :=
    ⟨fun r => ⟨r.name, r.keys⟩, fun r => ⟨modern, r.1, r.2⟩⟩
  cases hv : t.void with
  | true =>
    simp only [if_true, read, map_eq_ok, readHead_write h.name legible, readable]
    constructor
    · rintro ⟨_, ⟨_, ⟨name, keys, rfl⟩, rfl⟩, rfl⟩
      exact ⟨⟨name, keys⟩, rfl⟩
    · rintro ⟨⟨name, keys⟩, rfl⟩
      exact ⟨_, ⟨_, ⟨name, keys, rfl⟩, rfl⟩, rfl⟩
  | false =>
    simp only [Bool.false_eq_true, if_false, read, map_eq_ok, readHead_write h.name legible, readable]
    constructor
    · rintro ⟨_, ⟨_, ⟨name, keys, rfl⟩, rfl⟩, rfl⟩
      exact ⟨⟨name, keys⟩, rfl⟩
    · rintro ⟨⟨name, keys⟩, rfl⟩
      exact ⟨_, ⟨_, ⟨name, keys, rfl⟩, rfl⟩, rfl⟩

/-- A head of the legacy name is read as a declaration, if it is read at all. -/
theorem readLine_legacy {void : Bool} {pairs : List (String × String)} {m : Nat × Mark}
    (h : readLine c (Text.dropReturn (Tag.indented k (Head.write void Line.legacyName pairs))) = .ok m) :
    ∃ d, m.2 = .declaration d := by
  obtain ⟨cs, hcs⟩ := write_bracket void Line.legacyName pairs
  have row := readLine_bracket (c := c) (k := k) cs '<' (by decide)
  rw [← hcs, Line.kindOf_write_legacy] at row
  rw [row] at h
  obtain ⟨_, said, rfl⟩ := map_eq_ok.1 h
  obtain ⟨number, -, rfl⟩ := map_eq_ok.1 said
  exact ⟨_, rfl⟩

theorem readLine_closing (c : Config) (k : Nat) {name : String} (h : IsTagName name)
    (solid : Text.Solid name.toList) :
    readLine c (Text.dropReturn (Tag.indented k (Line.closingText name))) = .ok (k, .closing name) := by
  have row := readLine_bracket (c := c) (k := k) ('/' :: name.toList) '<' (by decide)
  have closes : Head.closingName (Line.closingText name) = .ok name :=
    Head.closingName_eq_ok.2 ⟨rfl, h.isName, solid⟩
  have kind := Line.kindOf_closingText h
  rw [Line.closingText] at kind closes ⊢
  rw [List.cons_append] at row
  rw [row, kind, read, closes]
  rfl

theorem readLine_content (c : Config) (k : Nat) {l : List Char} (h : IsContentLine l) :
    readLine c (Text.dropReturn (Tag.indented k l)) =
      .ok (k, .content (String.ofList (Text.respellLine l))) := by
  have respelled : IsContentLine (Text.respellLine l) := h.dropReturn.dropReturn
  rw [readLine_row h.ne_nil h.dropReturn.ne_nil respelled.tab,
    Line.kindOf_content respelled.bracket respelled.solid]
  rfl

theorem readLine_empty (c : Config) : readLine c (Text.dropReturn []) = .ok (0, .blank) := rfl

/-- The marks of rows, each less a carriage return at its end. -/
def readRows (c : Config) (rows : List (List Char)) : Except Error (List (Nat × Mark)) :=
  (rows.map Text.dropReturn).mapM (readLine c)

theorem readRows_nil (c : Config) : readRows c [] = .ok [] := rfl

theorem readRows_cons {c : Config} {r : List Char} {rs : List (List Char)} {ms : List (Nat × Mark)} :
    readRows c (r :: rs) = .ok ms ↔
      ∃ m ms', readLine c (Text.dropReturn r) = .ok m ∧ readRows c rs = .ok ms' ∧ ms = m :: ms' := by
  simp only [readRows, List.map_cons, List.mapM_cons, bind_eq_ok, pure_eq_ok, Except.ok.injEq]
  constructor
  · rintro ⟨m, first, ms', rest, rfl⟩
    exact ⟨m, ms', first, rest, rfl⟩
  · rintro ⟨m, ms', first, rest, rfl⟩
    exact ⟨m, first, ms', rest, rfl⟩

theorem readRows_append {c : Config} {rs ss : List (List Char)} {ms : List (Nat × Mark)} :
    readRows c (rs ++ ss) = .ok ms ↔
      ∃ ms₁ ms₂, readRows c rs = .ok ms₁ ∧ readRows c ss = .ok ms₂ ∧ ms = ms₁ ++ ms₂ := by
  induction rs generalizing ms with
  | nil => simp [readRows_nil, eq_comm]
  | cons r rs ih =>
    simp only [List.cons_append, readRows_cons, ih]
    constructor
    · rintro ⟨m, _, first, ⟨ms₁, ms₂, rest, last, rfl⟩, rfl⟩
      exact ⟨m :: ms₁, ms₂, ⟨m, ms₁, first, rest, rfl⟩, last, rfl⟩
    · rintro ⟨_, ms₂, ⟨m, ms₁, first, rest, rfl⟩, last, rfl⟩
      exact ⟨m, ms₁ ++ ms₂, first, ⟨ms₁, ms₂, rest, last, rfl⟩, rfl⟩

theorem readRows_content (c : Config) (k : Nat) {t : Tag} (h : t.Legible) {ms : List (Nat × Mark)} :
    readRows c (Tag.contentRows k t.content) = .ok ms ↔ ms = Tag.contentMarks k t.content := by
  have lines (ls : List (List Char)) (hl : ∀ l ∈ ls, IsContentLine l) :
      readRows c (ls.map (Tag.indented k)) =
        .ok (ls.map fun l => (k, .content (String.ofList (Text.respellLine l)))) := by
    induction ls with
    | nil => rfl
    | cons l ls ih =>
      have rest := ih fun l hl' => hl l (by simp [hl'])
      exact readRows_cons.2 ⟨_, _, readLine_content c k (hl l (by simp)), rest, rfl⟩
  cases content : t.content with
  | none => simp [Tag.contentRows, Tag.contentMarks, readRows_nil, eq_comm]
  | some text =>
    have read := lines (Text.pieces '\n' text.toList) (h.content text content)
    simp only [Tag.contentRows, Tag.contentMarks, Option.toList_some, List.flatMap_cons,
      List.flatMap_nil, List.append_nil, read, Except.ok.injEq]
    exact eq_comm

end Mark

namespace Tag
open Mark

variable {c : Config} {k : Nat} {t : Tag}

/-- Marks of rows that hold no declaration. -/
def Undeclared (ms : List (Nat × Mark)) : Prop := ∀ m ∈ ms, ∀ d, m.2 ≠ .declaration d

theorem Undeclared.append {ms ns : List (Nat × Mark)} (h : Undeclared (ms ++ ns)) :
    Undeclared ms ∧ Undeclared ns :=
  ⟨fun m hm => h m (by simp [hm]), fun m hm => h m (by simp [hm])⟩

theorem readRows_flatMap {α : Type} {f : α → List (List Char)} {g : α → List (Nat × Mark)} {as : List α}
    (h : ∀ a ∈ as, readRows c (f a) = .ok (g a)) :
    readRows c (as.flatMap f) = .ok (as.flatMap g) := by
  induction as with
  | nil => rfl
  | cons a as ih =>
    have rest := ih fun b hb => h b (by simp [hb])
    exact readRows_append.2 ⟨_, _, h a (by simp), rest, rfl⟩

theorem exists_readRows_of_flatMap {α : Type} {f : α → List (List Char)} {as : List α}
    {ms : List (Nat × Mark)} (h : readRows c (as.flatMap f) = .ok ms) (undeclared : Undeclared ms) :
    ∀ a ∈ as, ∃ ns, readRows c (f a) = .ok ns ∧ Undeclared ns := by
  induction as generalizing ms with
  | nil => simp
  | cons a as ih =>
    obtain ⟨ms₁, ms₂, first, rest, rfl⟩ := readRows_append.1 h
    intro b hb
    rcases List.mem_cons.1 hb with rfl | hb
    · exact ⟨ms₁, first, undeclared.append.1⟩
    · exact ih rest undeclared.append.2 b hb

/-- Rows of legible and readable tags are read, and say what the tags are. -/
theorem readRows_rows (legible : t.Everywhere (fun _ t => t.Legible) k)
    (readable : t.Everywhere (fun _ t => t.Readable) k) :
    readRows c (t.rows k) = .ok (t.marks k) := by
  induction legible with
  | @intro k t here inside ih =>
    have head := (readLine_head c k here readable.here.modern).2 ⟨readable.here, rfl⟩
    rw [rows_eq, readRows_cons]
    cases void : t.void with
    | true =>
      rw [void] at head
      exact ⟨_, [], head, rfl, by rw [marks_of_void void, if_pos rfl]⟩
    | false =>
      rw [void] at head
      have children := readRows_flatMap fun u hu => ih u hu (readable.inside u hu)
      have content := (readRows_content c (k + 1) here).2 rfl
      have closing := readRows_cons.2
        ⟨_, _, readLine_closing c k here.name (here.solid void), readRows_nil c, rfl⟩
      refine ⟨_, _, head, ?_, by rw [marks_of_opened void, if_neg Bool.false_ne_true]⟩
      exact readRows_append.2 ⟨_, _, readRows_append.2 ⟨_, _, children, content, rfl⟩, closing, rfl⟩

/-- Legible tags whose rows can be read are readable, unless a row is read as a declaration. -/
theorem readable_of_readRows (legible : t.Everywhere (fun _ t => t.Legible) k) {ms : List (Nat × Mark)}
    (read : readRows c (t.rows k) = .ok ms) (undeclared : Undeclared ms) :
    t.Everywhere (fun _ t => t.Readable) k := by
  induction legible generalizing ms with
  | @intro k t here inside ih =>
    rw [rows_eq, readRows_cons] at read
    obtain ⟨m, ms', head, rest, rfl⟩ := read
    have modern : t.name ≠ Line.legacyName := by
      intro legacy
      rw [legacy] at head
      obtain ⟨d, hd⟩ := readLine_legacy head
      exact undeclared m (by simp) d hd
    refine .intro ((readLine_head c k here modern).1 head).1 ?_
    cases void : t.void with
    | true => simp [(here.void void).2]
    | false =>
      simp only [void, Bool.false_eq_true, if_false] at rest
      obtain ⟨ms₁, ms₂, inner, -, rfl⟩ := readRows_append.1 rest
      obtain ⟨ms₃, ms₄, children, -, rfl⟩ := readRows_append.1 inner
      have quiet : Undeclared ms₃ := fun m hm => undeclared m (by simp [hm])
      intro u hu
      obtain ⟨ns, hns, quiet⟩ := exists_readRows_of_flatMap children quiet u hu
      exact ih u hu hns quiet

end Tag
end TabMarkup
