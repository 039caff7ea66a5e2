import TabMarkup.Proofs.Writing.Legible
import TabMarkup.Proofs.Reading.Contexts

/-!
Tags that are built again from the marks of their rows. Moved by the marks of a tag, a nest
takes in one more complete tag, the same one but for what is lost in reading.
-/
namespace TabMarkup

/-- The limits on a tag at a depth; its content stands one level deeper. -/
structure Config.Holds (c : Config) (k : Nat) (t : Tag) : Prop where
  depth : k ≤ c.maxDepth
  inner : t.content.isSome = true → k + 1 ≤ c.maxDepth
  fits : c.Fits t.pairs
  content : ∀ text ∈ t.content, text.utf8ByteSize ≤ c.maxStringLength

/-- What a tag is like that can be written, and read again within the limits. -/
def Tag.Sound (c : Config) (k : Nat) (t : Tag) : Prop := t.Legible ∧ c.Holds k t

namespace Tag

def rereadContent (content : Option String) : Option String :=
  content.map fun text =>
    "\n".intercalate ((Text.pieces '\n' text.toList).map fun l => String.ofList (Text.respellLine l))

def refined (g : Scan.Setting) (t : Tag) : Tag := (g.refineTag t).toOption.getD t

mutual
/-- A tag as it is read back. -/
def reread (g : Scan.Setting) : Tag → Tag
  | ⟨name, content, void, _, children, properties, _⟩ =>
    refined g {
      name := Head.respellName name (properties.map Property.pair)
      properties := Property.ofPairs (Head.respellPairs (properties.map Property.pair))
      content := rereadContent content
      void := void
      closed := true
      children := rereadAll g children }
def rereadAll (g : Scan.Setting) : List Tag → List Tag
  | [] => []
  | t :: ts => reread g t :: rereadAll g ts
end

theorem rereadAll_eq (g : Scan.Setting) (ts : List Tag) : rereadAll g ts = ts.map (reread g) := by
  induction ts with
  | nil => rfl
  | cons t ts ih => rw [rereadAll, ih, List.map_cons]

theorem reread_eq (g : Scan.Setting) (t : Tag) :
    t.reread g = refined g {
      name := Head.respellName t.name t.pairs
      properties := Property.ofPairs (Head.respellPairs t.pairs)
      content := rereadContent t.content
      void := t.void
      closed := true
      children := t.children.map (reread g) } := by
  cases t
  simp only [reread, rereadAll_eq, pairs]

theorem refineTag_eq {g : Scan.Setting} (hg : g.Reshaping) (t : Tag) :
    g.refineTag t = .ok (refined g t) := by
  obtain ⟨shape, reshaped⟩ := hg.tags t
  simp [refined, reshaped, Except.toOption]

end Tag

/-! ### Content -/

namespace Tag

def joinLines (content : Option String) (ls : List String) : Option String :=
  ls.foldl (fun content line => some (joinLine content line)) content

theorem joinLines_cons (content : Option String) (l : String) (ls : List String) :
    joinLines content (l :: ls) = joinLines (some (joinLine content l)) ls := rfl

theorem joinLines_some (text : String) {ls : List String} (ne : ls ≠ []) :
    joinLines (some text) ls = some (text ++ "\n" ++ "\n".intercalate ls) := by
  induction ls generalizing text with
  | nil => exact absurd rfl ne
  | cons l ls ih =>
    rw [joinLines_cons]
    by_cases none : ls = []
    · simp [none, joinLines, joinLine]
    · rw [ih _ none, String.intercalate_cons_of_ne_nil none]
      simp [joinLine, String.append_assoc]

theorem joinLines_none {ls : List String} (ne : ls ≠ []) :
    joinLines none ls = some ("\n".intercalate ls) := by
  cases ls with
  | nil => exact absurd rfl ne
  | cons l ls =>
    rw [joinLines_cons]
    by_cases none : ls = []
    · simp [none, joinLines, joinLine]
    · rw [joinLines_some _ none, String.intercalate_cons_of_ne_nil none]
      rfl

theorem size_le_joinLines (text : String) (ls : List String) :
    text.utf8ByteSize ≤ ((joinLines (some text) ls).getD "").utf8ByteSize := by
  by_cases none : ls = []
  · simp [none, joinLines]
  · simp only [joinLines_some _ none, Option.getD_some, String.utf8ByteSize_append]
    omega

theorem toList_intercalate_ofList (ls : List (List Char)) :
    ("\n".intercalate (ls.map String.ofList)).toList = ['\n'].intercalate ls := by
  have same : String.toList ∘ String.ofList = id := funext fun cs => String.toList_ofList
  simp [String.toList_intercalate, same]

theorem intercalate_pieces (text : String) :
    "\n".intercalate ((Text.pieces '\n' text.toList).map String.ofList) = text := by
  apply String.toList_inj.1
  rw [toList_intercalate_ofList, Text.intercalate_pieces]

theorem size_rereadContent (text : String) :
    ("\n".intercalate ((Text.pieces '\n' text.toList).map fun l =>
      String.ofList (Text.respellLine l))).utf8ByteSize ≤ text.utf8ByteSize := by
  have shorter (ls : List (List Char)) :
      ("\n".intercalate (ls.map fun l => String.ofList (Text.respellLine l))).utf8ByteSize ≤
        ("\n".intercalate (ls.map String.ofList)).utf8ByteSize := by
    induction ls with
    | nil => simp
    | cons l ls ih =>
      have first : (String.ofList (Text.respellLine l)).utf8ByteSize ≤
          (String.ofList l).utf8ByteSize := by
        simp only [Text.utf8ByteSize_ofList]
        exact Nat.le_trans (Text.byteLength_dropReturn_le _) (Text.byteLength_dropReturn_le l)
      by_cases none : ls = []
      · simpa [none] using first
      · simp only [List.map_cons]
        rw [String.intercalate_cons_of_ne_nil (by simpa using none),
          String.intercalate_cons_of_ne_nil (by simpa using none)]
        simp only [String.utf8ByteSize_append]
        omega
  have all := shorter (Text.pieces '\n' text.toList)
  rw [intercalate_pieces] at all
  exact all

end Tag

namespace Nest
variable {g : Scan.Setting} {n : Nest} {fs : List Frame} {f : Frame}

theorem run_lines (hn : n.frames = fs ++ [f]) (ls : List String)
    (small : ((Tag.joinLines f.content ls).getD "").utf8ByteSize ≤ g.config.maxStringLength) :
    n.run g (ls.map fun l => (fs.length + 1, .content l)) =
      some { n with frames := fs ++ [{ f with content := Tag.joinLines f.content ls }] } := by
  induction ls generalizing n f with
  | nil =>
    have same : { n with frames := fs ++ [f] } = n := by rw [← hn]
    simpa [Tag.joinLines] using same.symm
  | cons l ls ih =>
    have short : (Tag.joinLine f.content l).utf8ByteSize ≤ g.config.maxStringLength :=
      Nat.le_trans (Tag.size_le_joinLines _ ls) small
    have step : n.step g (fs.length + 1, .content l) = some { n with frames := fs ++ [f.addLine l] } :=
      content_eq_some.2 ⟨fs, f, hn, rfl, short, rfl⟩
    rw [List.map_cons, run_cons, step]
    exact ih (n := { n with frames := fs ++ [f.addLine l] }) rfl small

theorem run_contentMarks (hn : n.frames = fs ++ [f]) (empty : f.content = none) {content : Option String}
    (small : ∀ text ∈ content, text.utf8ByteSize ≤ g.config.maxStringLength) :
    n.run g (Tag.contentMarks (fs.length + 1) content) =
      some { n with frames := fs ++ [{ f with content := Tag.rereadContent content }] } := by
  cases content with
  | none =>
    have same : { n with frames := fs ++ [{ f with content := none }] } = n := by rw [← empty, ← hn]
    simpa [Tag.contentMarks, Tag.rereadContent] using same.symm
  | some text =>
    have ne : (Text.pieces '\n' text.toList).map (fun l => String.ofList (Text.respellLine l)) ≠ [] := by
      simpa using Text.pieces_ne_nil '\n' text.toList
    have lines := Tag.joinLines_none ne
    have run := run_lines (g := g) hn ((Text.pieces '\n' text.toList).map fun l =>
      String.ofList (Text.respellLine l)) (by
        rw [empty, lines, Option.getD_some]
        exact Nat.le_trans (Tag.size_rereadContent text) (small text rfl))
    rw [List.map_map, empty, lines] at run
    simpa [Tag.contentMarks, Tag.rereadContent, Function.comp_def] using run

/-! ### Tags -/

theorem attach_concat (hn : n.frames = fs ++ [f]) (t : Tag) :
    n.attach t (fs.length + 1) = { n with frames := fs ++ [f.addChild t] } := by
  have inner : (fs ++ [f]).modify fs.length (·.addChild t) = fs ++ [f.addChild t] := by
    rw [Scan.modify_eq_set (by simp)]
    simp
  simp [attach, hn, inner]

theorem run_children {ts : List Tag} (hn : n.frames = fs ++ [f])
    (h : ∀ t ∈ ts, ∀ n : Nest, n.frames.length = fs.length + 1 →
      n.run g (t.marks (fs.length + 1)) = some (n.attach (t.reread g) (fs.length + 1))) :
    n.run g (ts.flatMap (Tag.marks (fs.length + 1))) =
      some { n with frames := fs ++ [{ f with children := f.children ++ ts.map (Tag.reread g) }] } := by
  induction ts generalizing n f with
  | nil =>
    have same : { n with frames := fs ++ [f] } = n := by rw [← hn]
    simpa using same.symm
  | cons t ts ih =>
    have first := h t (by simp) n (by simp [hn])
    rw [attach_concat hn] at first
    have rest := ih (n := { n with frames := fs ++ [f.addChild (t.reread g)] }) rfl
      fun u hu => h u (by simp [hu])
    rw [List.flatMap_cons, run_append, first, Option.bind_some, rest]
    simp [Frame.addChild]

theorem fits_respellPairs {c : Config} {pairs : List (String × String)} (h : c.Fits pairs) :
    c.Fits (Head.respellPairs pairs) := by
  cases pairs with
  | nil => exact h
  | cons p ps =>
    obtain ⟨count, short⟩ := h
    refine ⟨count, fun q hq => ?_⟩
    rcases List.mem_cons.1 hq with rfl | hq
    · exact short p (by simp)
    · exact short q (by simp [hq])

theorem respellName_of_solid {name : String} (h : Text.Solid name.toList)
    (pairs : List (String × String)) :
    Head.respellName name pairs = name := by
  simp [Head.respellName, h.trimEnd_eq]

/-- The marks of a tag within the limits put it, as it is read back, into the nest. -/
theorem run_marks (hg : g.Reshaping) {k : Nat} {t : Tag}
    (h : t.Everywhere (Tag.Sound g.config) k) (hn : n.frames.length = k) :
    n.run g (t.marks k) = some (n.attach (t.reread g) k) := by
  induction h generalizing n with
  | @intro k t here inside ih =>
    obtain ⟨legible, holds⟩ := here
    have fits := fits_respellPairs holds.fits
    cases void : t.void with
    | true =>
      have rebuilt : t.reread g =
          Tag.refined g (.ofVoid (Head.respellName t.name t.pairs) (Head.respellPairs t.pairs)) := by
        obtain ⟨content, children⟩ := legible.void void
        simp [Tag.reread_eq, Tag.ofVoid, Tag.rereadContent, void, content, children]
      have step : n.step g (k, .void (Head.respellName t.name t.pairs) (Head.respellPairs t.pairs)) =
          some (n.attach (t.reread g) k) :=
        void_eq_some.2 ⟨Nat.le_of_eq hn.symm, fits, _, Tag.refineTag_eq hg _, by rw [rebuilt]⟩
      rw [Tag.marks_of_void void, run_cons, step]
      rfl
    | false =>
      subst hn
      have name := respellName_of_solid (legible.solid void) t.pairs
      have head : n.step g (n.frames.length, .opening (Head.respellName t.name t.pairs)
          (Head.respellPairs t.pairs)) = some { n with
            frames := n.frames ++ [.ofHead t.name (Head.respellPairs t.pairs)] } :=
        opening_eq_some.2 ⟨rfl, fits, by rw [name]⟩
      have children := run_children (g := g)
        (n := { n with frames := n.frames ++ [.ofHead t.name (Head.respellPairs t.pairs)] }) rfl
        fun u hu n' hn' => ih u hu hn'
      have content := run_contentMarks (g := g) (n := { n with frames := n.frames ++
        [{ Frame.ofHead t.name (Head.respellPairs t.pairs) with
          children := t.children.map (Tag.reread g) }] })
        rfl rfl holds.content
      have last : Nest.step g { n with frames := n.frames ++
          [{ Frame.ofHead t.name (Head.respellPairs t.pairs) with
            children := t.children.map (Tag.reread g), content := Tag.rereadContent t.content }] }
          (n.frames.length, .closing t.name) = some (n.attach (t.reread g) n.frames.length) := by
        refine closing_eq_some.2 ⟨n.frames, _, _, rfl, rfl, rfl, Tag.refineTag_eq hg _, ?_⟩
        congr 1
        simp [Tag.reread_eq, name, void, Frame.closed, Frame.opened, Frame.ofHead, Tag.close]
      rw [Tag.marks_of_opened void, run_cons, head, Option.bind_some, run_append, run_append, children,
        Option.bind_some]
      simp only [Frame.ofHead, List.nil_append] at content last ⊢
      rw [content, Option.bind_some, run_cons, last]
      rfl

end Nest
end TabMarkup
