import TabMarkup.Proofs.Reading.Outline
import TabMarkup.Proofs.Reading.Contexts

/-!
Where the tags of a document come from. While a nest is moved by marks, a plan of lines follows
it: each open tag has the line that opened it and the outlines of its children so far. At the
end the plan is the outline of the whole document.
-/
namespace TabMarkup

/-- The open tags by their lines and with the children they have so far, the outermost first, and
the top-level tags that are complete. -/
structure Plan where
  spots : List (Nat × List Outline) := []
  tops : List Outline := []

namespace Plan

def attach (p : Plan) (o : Outline) : Nat → Plan
  | 0 => { p with tops := p.tops ++ [o] }
  | k + 1 => { p with spots := p.spots.modify k fun s => (s.1, s.2 ++ [o]) }

def spotLines (spots : List (Nat × List Outline)) : List Nat :=
  spots.flatMap fun s => s.1 :: Outline.linesAll s.2

def lines (p : Plan) : List Nat := spotLines p.spots ++ Outline.linesAll p.tops

/-! ### What holds of an open tag -/

/-- An open tag at an indentation is what the lines before line `i` make of it. -/
structure Holds (ms : List (Nat × Mark)) (i k : Nat) (f : Frame) (s : Nat × List Outline) : Prop where
  opened : ∃ pairs, ms[s.1]? = some (k, .opening f.name pairs) ∧ f.properties = Property.ofPairs pairs
  before : s.1 < i
  latest : ∀ l, s.1 < l → l < i → ¬ Mark.Opens ms l k
  unclosed : ∀ l, s.1 < l → l < i → ¬ Mark.Closes ms l k
  content : f.content = Mark.contentBetween ms (k + 1) s.1 i
  children : f.children = Outline.tagAll ms s.2
  kids : ∀ o ∈ s.2, o.Placed ms ∧ Mark.IsParent ms s.1 o.line ∧ o.last < i
  ordered : Outline.Ordered s.2

/-- A mark that neither opens nor closes a tag at an indentation, nor adds to the content of one. -/
structure Quiet (m : Nat × Mark) (k : Nat) : Prop where
  opening : ∀ name pairs, m ≠ (k, .opening name pairs)
  closing : ∀ name, m ≠ (k, .closing name)
  content : Mark.contentLine? (k + 1) m = none

variable {ms : List (Nat × Mark)} {i k : Nat} {m : Nat × Mark} {f : Frame} {s : Nat × List Outline}

theorem Holds.opens (h : Holds ms i k f s) : Mark.Opens ms s.1 k := by
  obtain ⟨pairs, opened, -⟩ := h.opened
  exact ⟨_, pairs, opened⟩

theorem Holds.advance (h : Holds ms i k f s) (hm : ms[i]? = some m) (quiet : Quiet m k) :
    Holds ms (i + 1) k f s where
  opened := h.opened
  before := Nat.lt_succ_of_lt h.before
  latest l low high := by
    rcases Nat.lt_succ_iff_lt_or_eq.1 high with high | rfl
    · exact h.latest l low high
    · rintro ⟨name, pairs, hl⟩
      exact quiet.opening name pairs (Option.some.inj (hm.symm.trans hl))
  unclosed l low high := by
    rcases Nat.lt_succ_iff_lt_or_eq.1 high with high | rfl
    · exact h.unclosed l low high
    · rintro ⟨name, hl⟩
      exact quiet.closing name (Option.some.inj (hm.symm.trans hl))
  content := by rw [Mark.contentBetween_succ_other hm h.before quiet.content, h.content]
  children := h.children
  kids o ho := by
    obtain ⟨placed, parent, last⟩ := h.kids o ho
    exact ⟨placed, parent, Nat.lt_succ_of_lt last⟩
  ordered := h.ordered

theorem Holds.addLine {line : String} (h : Holds ms i k f s)
    (hm : ms[i]? = some (k + 1, .content line)) :
    Holds ms (i + 1) k (f.addLine line) s where
  opened := h.opened
  before := Nat.lt_succ_of_lt h.before
  latest l low high := by
    rcases Nat.lt_succ_iff_lt_or_eq.1 high with high | rfl
    · exact h.latest l low high
    · rintro ⟨name, pairs, hl⟩
      simp [hm] at hl
  unclosed l low high := by
    rcases Nat.lt_succ_iff_lt_or_eq.1 high with high | rfl
    · exact h.unclosed l low high
    · rintro ⟨name, hl⟩
      simp [hm] at hl
  content := by
    rw [Mark.contentBetween_succ_line hm h.before (if_pos rfl), ← h.content]
    rfl
  children := h.children
  kids o ho := by
    obtain ⟨placed, parent, last⟩ := h.kids o ho
    exact ⟨placed, parent, Nat.lt_succ_of_lt last⟩
  ordered := h.ordered

theorem Holds.addChild {o : Outline} (h : Holds ms i k f s) (hm : ms[i]? = some m) (quiet : Quiet m k)
    (placed : o.Placed ms) (last : o.last = i) (inside : s.1 < o.line ∧ o.line ≤ i)
    (indent : ms[o.line]?.map Prod.fst = some (k + 1)) :
    Holds ms (i + 1) k (f.addChild (o.tag ms)) (s.1, s.2 ++ [o]) where
  opened := h.opened
  before := (h.advance hm quiet).before
  latest := (h.advance hm quiet).latest
  unclosed := (h.advance hm quiet).unclosed
  content := (h.advance hm quiet).content
  children := by simp [Frame.addChild, h.children, Outline.tagAll_append, Outline.tagAll]
  kids p hp := by
    rcases List.mem_append.1 hp with hp | hp
    · exact (h.advance hm quiet).kids p hp
    · obtain rfl := List.mem_singleton.1 hp
      have parent : Mark.IsParent ms s.1 p.line :=
        ⟨k, indent, inside.1, h.opens, fun l low high =>
          h.latest l low (Nat.lt_of_lt_of_le high inside.2)⟩
      exact ⟨placed, parent, by omega⟩
  ordered := h.ordered.concat fun p hp => last ▸ (h.kids p hp).2.2

theorem holds_ofHead {name : String} {pairs : List (String × String)}
    (hm : ms[i]? = some (k, .opening name pairs)) :
    Holds ms (i + 1) k (.ofHead name pairs) (i, []) where
  opened := ⟨pairs, hm, rfl⟩
  before := Nat.lt_succ_self i
  latest l low high := by simp only at low; omega
  unclosed l low high := by simp only at low; omega
  content := (Mark.contentBetween_next ms (k + 1) i).symm
  children := rfl
  kids o ho := by cases ho
  ordered := .nil

/-! ### What holds of a nest -/

/-- A plan is what the lines before line `i` make of a nest, but that some heads may be missing. -/
structure Fits (ms : List (Nat × Mark)) (i : Nat) (n : Nest) (p : Plan) : Prop where
  length : n.frames.length = p.spots.length
  frames : ∀ k f s, n.frames[k]? = some f → p.spots[k]? = some s → Holds ms i k f s
  nested : p.spots.Pairwise fun s t => s.1 < t.1
  tops : ∀ o ∈ p.tops, o.Placed ms ∧ ms[o.line]?.map Prod.fst = some 0 ∧ o.last < i
  ordered : Outline.Ordered p.tops
  body : n.body.tags = Outline.tagAll ms p.tops

variable {n : Nest} {p : Plan}

theorem Fits.spot (h : Fits ms i n p) {k : Nat} {s : Nat × List Outline} (hs : p.spots[k]? = some s) :
    ∃ f, n.frames[k]? = some f ∧ Holds ms i k f s := by
  have hk : k < n.frames.length := by
    rw [h.length]
    exact (List.getElem?_eq_some_iff.1 hs).1
  exact ⟨_, List.getElem?_eq_getElem hk, h.frames k _ s (List.getElem?_eq_getElem hk) hs⟩

theorem Fits.advance (h : Fits ms i n p) (hm : ms[i]? = some m)
    (quiet : ∀ k < n.frames.length, Quiet m k) : Fits ms (i + 1) n p where
  length := h.length
  frames k f s hf hs := (h.frames k f s hf hs).advance hm (quiet k (List.getElem?_eq_some_iff.1 hf).1)
  nested := h.nested
  tops o ho := by
    obtain ⟨placed, top, last⟩ := h.tops o ho
    exact ⟨placed, top, Nat.lt_succ_of_lt last⟩
  ordered := h.ordered
  body := h.body

theorem spots_modify_fst (spots : List (Nat × List Outline)) (k : Nat) (o : Outline) :
    (spots.modify k fun s => (s.1, s.2 ++ [o])).map Prod.fst = spots.map Prod.fst := by
  apply List.ext_getElem?
  intro j
  simp only [List.getElem?_map, List.getElem?_modify]
  by_cases hj : k = j
  · subst hj
    cases spots[k]? <;> simp
  · cases spots[j]? <;> simp [hj]

/-- A tag that is complete at line `i` goes where its indentation says. -/
theorem Fits.attach {o : Outline} (h : Fits ms i n p) (hm : ms[i]? = some m)
    (quiet : ∀ k < n.frames.length, Quiet m k) (placed : o.Placed ms) (last : o.last = i)
    (below : ∀ s ∈ p.spots, s.1 < o.line) (upTo : o.line ≤ i)
    (indent : ms[o.line]?.map Prod.fst = some k) :
    Fits ms (i + 1) (n.attach (o.tag ms) k) (p.attach o k) := by
  have next := h.advance hm quiet
  cases k with
  | zero =>
    refine ⟨next.length, next.frames, next.nested, ?_, ?_, ?_⟩
    · intro q hq
      rcases List.mem_append.1 hq with hq | hq
      · exact next.tops q hq
      · obtain rfl := List.mem_singleton.1 hq
        exact ⟨placed, indent, by omega⟩
    · exact h.ordered.concat fun q hq => last ▸ (h.tops q hq).2.2
    · simp [Nest.attach, Plan.attach, Body.tags_push, h.body, Outline.tagAll_append, Outline.tagAll]
  | succ k =>
    refine ⟨?_, ?_, ?_, next.tops, next.ordered, next.body⟩
    · simp [Nest.attach, Plan.attach, h.length]
    · intro j f s hf hs
      simp only [Nest.attach, Plan.attach, List.getElem?_modify] at hf hs
      by_cases hj : k = j
      · subst hj
        simp only [if_true, Option.map_eq_map, Option.map_eq_some_iff] at hf hs
        obtain ⟨f, hf, rfl⟩ := hf
        obtain ⟨s, hs, rfl⟩ := hs
        exact (h.frames k f s hf hs).addChild hm (quiet k (List.getElem?_eq_some_iff.1 hf).1) placed
          last ⟨below s (List.mem_of_getElem? hs), upTo⟩ indent
      · exact next.frames j f s (by simpa [hj] using hf) (by simpa [hj] using hs)
    · have nested : (p.spots.map Prod.fst).Pairwise (· < ·) := List.pairwise_map.2 h.nested
      rw [← spots_modify_fst p.spots k o] at nested
      exact List.pairwise_map.1 nested

structure Tracks (ms : List (Nat × Mark)) (i : Nat) (n : Nest) (p : Plan) : Prop
    extends Fits ms i n p where
  lines : p.lines.Perm (Mark.headsBefore ms i)

theorem linesAll_concat (os : List Outline) (o : Outline) :
    Outline.linesAll (os ++ [o]) = Outline.linesAll os ++ o.lines := by
  simp [Outline.linesAll_append, Outline.linesAll]

theorem spotLines_modify {spots : List (Nat × List Outline)} (hk : k < spots.length) (o : Outline) :
    (spotLines (spots.modify k fun s => (s.1, s.2 ++ [o]))).Perm (spotLines spots ++ o.lines) := by
  induction spots generalizing k with
  | nil => simp at hk
  | cons s spots ih =>
    cases k with
    | zero =>
      simp only [List.modify_zero_cons, spotLines, List.flatMap_cons, linesAll_concat]
      simp only [List.cons_append, List.append_assoc]
      exact (List.perm_append_left_iff _).2 List.perm_append_comm |>.cons _
    | succ k =>
      have rest := ih (k := k) (by simpa using hk)
      simp only [List.modify_succ_cons, spotLines, List.flatMap_cons, List.append_assoc] at rest ⊢
      exact (List.perm_append_left_iff _).2 rest

theorem lines_attach (hk : k ≤ p.spots.length) (o : Outline) :
    (p.attach o k).lines.Perm (p.lines ++ o.lines) := by
  cases k with
  | zero => simp [lines, attach, linesAll_concat]
  | succ k =>
    have moved := spotLines_modify (show k < p.spots.length by omega) o
    calc (p.attach o (k + 1)).lines
      _ = spotLines (p.spots.modify k fun s => (s.1, s.2 ++ [o])) ++ Outline.linesAll p.tops := rfl
      List.Perm _ (spotLines p.spots ++ o.lines ++ Outline.linesAll p.tops) := moved.append_right _
      List.Perm _ (p.lines ++ o.lines) := by
        rw [lines, List.append_assoc, List.append_assoc]
        exact (List.perm_append_left_iff _).2 List.perm_append_comm

theorem lines_opened (p : Plan) (i : Nat) :
    (lines { p with spots := p.spots ++ [(i, [])] }).Perm (p.lines ++ [i]) := by
  have split : lines { p with spots := p.spots ++ [(i, [])] } =
      spotLines p.spots ++ ([i] ++ Outline.linesAll p.tops) := by
    simp [lines, spotLines, Outline.linesAll]
  rw [split, lines, List.append_assoc]
  exact (List.perm_append_left_iff _).2 List.perm_append_comm

theorem lines_closed {ss : List (Nat × List Outline)} (hss : p.spots = ss ++ [s]) (i : Nat) :
    (lines { p with spots := ss } ++ (Outline.node s.1 i s.2).lines).Perm p.lines := by
  have split : p.lines =
      spotLines ss ++ ((Outline.node s.1 i s.2).lines ++ Outline.linesAll p.tops) := by
    simp [lines, hss, spotLines, Outline.lines]
  rw [split, lines, List.append_assoc]
  exact (List.perm_append_left_iff _).2 List.perm_append_comm

theorem Fits.innermost (h : Fits ms i n p) {fs : List Frame} {f : Frame} (hfs : n.frames = fs ++ [f]) :
    ∃ ss s, p.spots = ss ++ [s] ∧ ss.length = fs.length ∧ Holds ms i fs.length f s := by
  have len := h.length
  rcases List.eq_nil_or_concat p.spots with none | ⟨ss, s, hss⟩
  · simp [hfs, none] at len
  · rw [List.concat_eq_append] at hss
    have same : ss.length = fs.length := by simp [hfs, hss] at len; omega
    refine ⟨ss, s, hss, same, h.frames fs.length f s (by simp [hfs]) ?_⟩
    rw [hss, ← same]
    simp

theorem Fits.outer (h : Fits ms i n p) {fs : List Frame} {f : Frame} {ss : List (Nat × List Outline)}
    {s : Nat × List Outline} (hfs : n.frames = fs ++ [f]) (hss : p.spots = ss ++ [s])
    (same : ss.length = fs.length) : Fits ms i { n with frames := fs } { p with spots := ss } where
  length := same.symm
  frames k f' s' hf hs := by
    have hk := (List.getElem?_eq_some_iff.1 hf).1
    refine h.frames k f' s' ?_ ?_
    · rw [hfs, List.getElem?_append_left hk]
      exact hf
    · rw [hss, List.getElem?_append_left (same ▸ hk)]
      exact hs
  nested := (List.pairwise_append.1 (hss ▸ h.nested)).1
  tops := h.tops
  ordered := h.ordered
  body := h.body

theorem Tracks.opening (h : Tracks ms i n p) {name : String} {pairs : List (String × String)}
    (hm : ms[i]? = some (n.frames.length, .opening name pairs)) :
    Tracks ms (i + 1) { n with frames := n.frames ++ [.ofHead name pairs] }
      { p with spots := p.spots ++ [(i, [])] } := by
  have next := h.advance hm fun k hk =>
    ⟨fun _ _ e => absurd (Prod.mk.inj e).1 (Nat.ne_of_gt hk), by simp, rfl⟩
  refine ⟨⟨?_, ?_, ?_, next.tops, next.ordered, next.body⟩, ?_⟩
  · simp [h.length]
  · intro k f s hf hs
    rcases getElem?_concat.1 hf with old | ⟨rfl, rfl⟩
    · rcases getElem?_concat.1 hs with old' | ⟨rfl, -⟩
      · exact next.frames k f s old old'
      · have := (List.getElem?_eq_some_iff.1 old).1
        exact absurd h.length (Nat.ne_of_gt this)
    · rw [h.length] at hs
      obtain rfl : (i, []) = s := by simpa using hs
      exact holds_ofHead hm
  · rw [List.pairwise_append]
    refine ⟨h.nested, by simp, ?_⟩
    intro s hs t ht
    obtain rfl := List.mem_singleton.1 ht
    obtain ⟨k, hk⟩ := List.mem_iff_getElem?.1 hs
    obtain ⟨f, -, holds⟩ := h.spot hk
    exact holds.before
  · rw [Mark.headsBefore_succ hm]
    exact (lines_opened p i).trans (h.lines.append_right [i])

theorem tag_void {name : String} {pairs : List (String × String)}
    (hm : ms[i]? = some (k, .void name pairs)) :
    Outline.tag ms (.node i i []) = .ofVoid name pairs := by
  simp [Outline.tag, hm, Mark.head, Mark.isVoid, Mark.contentBetween_self, Outline.tagAll, Tag.ofVoid]

theorem Tracks.void (h : Tracks ms i n p) {name : String} {pairs : List (String × String)}
    (hm : ms[i]? = some (k, .void name pairs)) (hk : k ≤ n.frames.length) :
    Tracks ms (i + 1) (n.attach (.ofVoid name pairs) k) (p.attach (.node i i []) k) := by
  have placed : (Outline.node i i []).Placed ms :=
    .node (.inl ⟨k, name, pairs, hm, rfl⟩) (by simp) (by simp) .nil (by simp)
  have below : ∀ s ∈ p.spots, s.1 < i := fun s hs => by
    obtain ⟨k, hk⟩ := List.mem_iff_getElem?.1 hs
    obtain ⟨f, -, holds⟩ := h.spot hk
    exact holds.before
  refine ⟨?_, ?_⟩
  · rw [← tag_void hm]
    exact h.toFits.attach hm (fun _ _ => ⟨by simp, by simp, rfl⟩) placed rfl below (Nat.le_refl i)
      (by simp [Outline.line, hm])
  · rw [Mark.headsBefore_succ hm]
    exact (lines_attach (h.length ▸ hk) _).trans (h.lines.append_right [i])

theorem Holds.tag {j : Nat} (h : Holds ms j k f s) :
    Outline.tag ms (.node s.1 j s.2) = f.closed := by
  obtain ⟨pairs, opened, properties⟩ := h.opened
  simp [Outline.tag, opened, Mark.head, Mark.isVoid, Frame.closed, Frame.opened, Tag.close, properties,
    h.content, h.children]

theorem Holds.placed (h : Holds ms i k f s) (hm : ms[i]? = some (k, .closing f.name)) :
    (Outline.node s.1 i s.2).Placed ms := by
  obtain ⟨pairs, opened, -⟩ := h.opened
  exact .node (.inr ⟨k, f.name, pairs, opened, h.before, hm, h.unclosed⟩)
    (fun o ho => (h.kids o ho).2.1) (fun o ho => (h.kids o ho).2.2) h.ordered
    fun o ho => (h.kids o ho).1

theorem Tracks.closing (h : Tracks ms i n p) {fs : List Frame} {f : Frame}
    (hfs : n.frames = fs ++ [f]) (hm : ms[i]? = some (fs.length, .closing f.name)) :
    ∃ p', Tracks ms (i + 1) (({ n with frames := fs } : Nest).attach f.closed fs.length) p' := by
  obtain ⟨ss, s, hss, same, holds⟩ := h.innermost hfs
  have outer := h.outer hfs hss same
  have below : ∀ t ∈ ss, t.1 < s.1 := fun t ht =>
    (List.pairwise_append.1 (hss ▸ h.nested)).2.2 t ht s (by simp)
  obtain ⟨pairs, opened, -⟩ := holds.opened
  refine ⟨({ p with spots := ss } : Plan).attach (.node s.1 i s.2) fs.length, ?_, ?_⟩
  · rw [← holds.tag]
    exact outer.attach hm (fun k hk =>
      ⟨by simp, fun _ e => absurd (Prod.mk.inj e).1 (Nat.ne_of_gt hk), rfl⟩)
      (holds.placed hm) rfl below (Nat.le_of_lt holds.before) (by simp [Outline.line, opened])
  · rw [Mark.headsBefore_succ hm]
    refine (lines_attach (Nat.le_of_eq same.symm) _).trans ?_
    simpa [Mark.isHead] using (lines_closed hss i).trans h.lines

theorem Tracks.content (h : Tracks ms i n p) {line : String} {fs : List Frame} {f : Frame}
    (hfs : n.frames = fs ++ [f]) (hm : ms[i]? = some (fs.length + 1, .content line)) :
    Tracks ms (i + 1) { n with frames := fs ++ [f.addLine line] } p := by
  obtain ⟨ss, s, hss, same, holds⟩ := h.innermost hfs
  have outer := (h.outer hfs hss same).advance hm fun k hk =>
    ⟨by simp, by simp, if_neg (by simp only at hk; omega)⟩
  refine ⟨⟨by simp [hss, same], ?_, h.nested, outer.tops, outer.ordered, outer.body⟩, ?_⟩
  · intro k f' s' hf hs
    rw [hss] at hs
    rcases getElem?_concat.1 hf with old | ⟨rfl, rfl⟩
    · rcases getElem?_concat.1 hs with old' | ⟨rfl, -⟩
      · exact outer.frames k f' s' old old'
      · have := (List.getElem?_eq_some_iff.1 old).1
        omega
    · obtain rfl : s = s' := by simpa [← same] using hs
      exact holds.addLine hm
  · rw [Mark.headsBefore_succ hm]
    simpa [Mark.isHead] using h.lines

theorem Tracks.keep (h : Tracks ms i n p) (hm : ms[i]? = some m) (quiet : ∀ k, Quiet m k)
    (plain : m.2.isHead = false) {n' : Nest} (frames : n'.frames = n.frames)
    (body : n'.body.tags = n.body.tags) : Tracks ms (i + 1) n' p := by
  have next := h.advance hm fun k _ => quiet k
  refine ⟨⟨frames ▸ next.length, frames ▸ next.frames, next.nested, next.tops, next.ordered,
    body ▸ next.body⟩, ?_⟩
  rw [Mark.headsBefore_succ hm]
  simpa [plain] using h.lines

theorem Tracks.step {c : Config} {n' : Nest} (h : Tracks ms i n p) (hm : ms[i]? = some m)
    (hn : n.step (.plain c) m = some n') : ∃ p', Tracks ms (i + 1) n' p' := by
  obtain ⟨k, mark⟩ := m
  cases mark with
  | declaration d =>
    have quiet (k' : Nat) : Quiet (k, .declaration d) k' := ⟨by simp, by simp, rfl⟩
    cases d with
    | doctype stylesheet =>
      obtain ⟨-, -, rfl⟩ := Nest.declareDoctype_eq_some.1 hn
      exact ⟨p, h.keep hm quiet rfl rfl rfl⟩
    | version number =>
      obtain ⟨-, rfl⟩ := Nest.declareVersion_eq_some.1 hn
      exact ⟨p, h.keep hm quiet rfl rfl rfl⟩
  | blank =>
    have quiet (k' : Nat) : Quiet (k, .blank) k' := ⟨by simp, by simp, rfl⟩
    cases hn
    unfold Nest.blank
    split
    · exact ⟨p, h.keep hm quiet rfl rfl n.body.tags_pushBlank⟩
    · exact ⟨p, h.keep hm quiet rfl rfl rfl⟩
  | opening name pairs =>
    obtain ⟨rfl, -, rfl⟩ := Nest.opening_eq_some.1 hn
    exact ⟨_, h.opening hm⟩
  | void name pairs =>
    obtain ⟨hk, -, t, refined, rfl⟩ := Nest.void_eq_some.1 hn
    cases refined
    exact ⟨_, h.void hm hk⟩
  | closing name =>
    obtain ⟨fs, f, t, hfs, rfl, rfl, refined, rfl⟩ := Nest.closing_eq_some.1 hn
    cases refined
    exact h.closing hfs hm
  | content line =>
    obtain ⟨fs, f, hfs, rfl, -, rfl⟩ := Nest.content_eq_some.1 hn
    exact ⟨p, h.content hfs hm⟩

theorem exists_tracks {c : Config} (hi : i ≤ ms.length)
    (hn : Nest.run (.plain c) {} (ms.take i) = some n) :
    ∃ p, Tracks ms i n p := by
  induction i generalizing n with
  | zero =>
    cases hn
    exact ⟨{}, ⟨rfl, by simp, .nil, by simp, .nil, rfl⟩, .refl _⟩
  | succ i ih =>
    obtain ⟨m, hm⟩ : ∃ m, ms[i]? = some m := ⟨ms[i], List.getElem?_eq_getElem hi⟩
    rw [List.take_add_one, hm, Nest.run_append, Option.bind_eq_some_iff] at hn
    obtain ⟨n₁, first, last⟩ := hn
    obtain ⟨p, h⟩ := ih (Nat.le_of_succ_le hi) first
    simp only [Option.toList_some, Nest.run_cons, Nest.run_nil, Option.bind_fun_some] at last
    exact h.step hm last

end Plan

/-- The tags of a document that was read in the empty context are those of an outline of its
lines. Every head is in the outline once, every tag is placed where its lines say, and the tags
without indentation are the top-level tags. -/
theorem Context.tags_of_readText {c : Config} {name text : String} {d : Document}
    (h : (empty.readText c name text).result = .ok d) :
    ∃ marks os, Mark.readText c text = .ok marks ∧ d.entries.tags = Outline.tagAll marks os ∧
      (Outline.linesAll os).Perm (Mark.heads marks) ∧ Outline.Ordered os ∧
      ∀ o ∈ os, o.Placed marks ∧ marks[o.line]?.map Prod.fst = some 0 := by
  rw [readText_empty, Scan.scan_eq_ok (Scan.Setting.stock_plain c)] at h
  obtain ⟨-, marks, n, d₀, read, run, closed, refined⟩ := h
  cases refined
  obtain ⟨none, -, -, body, -⟩ := Nest.document?_eq_some.1 closed
  obtain ⟨p, tracks⟩ : ∃ p, Plan.Tracks marks marks.length n p :=
    Plan.exists_tracks (Nat.le_refl _) (by rwa [List.take_length])
  have spots : p.spots = [] := by
    have := tracks.length
    rw [none] at this
    exact List.length_eq_zero_iff.1 this.symm
  refine ⟨marks, p.tops, read, body ▸ tracks.body, ?_, tracks.ordered, ?_⟩
  · simpa [Plan.lines, Plan.spotLines, spots, Mark.heads] using tracks.lines
  · exact fun o ho => ⟨(tracks.tops o ho).1, (tracks.tops o ho).2.1⟩

/-- A void tag may be complete before a sibling that was opened before it. -/
theorem Context.tags_of_readText_siblings :
    ∃ d, (empty.readText {} "siblings"
        "<!DOCTYPE skd notes>\n<!SKD version=\"0.2\">\n<a>\n\t<b>\n\t<c />\n\t</b>\n</a>\n").result = .ok d ∧
      ∃ marks os, d.entries.tags = Outline.tagAll marks os ∧
        (Outline.linesAll os).Perm (Mark.heads marks) := by
  have scanned : (Scan.scan (.plain {})
      "<!DOCTYPE skd notes>\n<!SKD version=\"0.2\">\n<a>\n\t<b>\n\t<c />\n\t</b>\n</a>\n").result = .ok _ :=
    (Scan.scan_eq_ok (Scan.Setting.stock_plain {})).2 ⟨by decide,
      [(0, .declaration (.doctype "notes")), (0, .declaration (.version "0.2")), (0, .opening "a" []),
        (1, .opening "b" []), (1, .void "c" []), (1, .closing "b"), (0, .closing "a")],
      _, _, rfl, rfl, rfl, rfl⟩
  have accepted : (empty.readText {} "siblings" _).result = .ok _ := readText_empty.2 scanned
  obtain ⟨marks, os, -, tags, lines, -⟩ := tags_of_readText accepted
  exact ⟨_, accepted, marks, os, tags, lines⟩

end TabMarkup
