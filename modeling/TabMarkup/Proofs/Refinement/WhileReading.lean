import TabMarkup.Proofs.Reading.Grammar
import TabMarkup.Proofs.Refinement.BottomUp

/-!
Refinement while reading. Rules that leave open tags alone are applied to a tag when it is
complete, while later lines are still to be read. A nest that refines as it goes is the plain nest
with its complete tags refined, so reading under rules is reading without them and refining after.
-/
namespace TabMarkup

namespace Frame

/-- An open tag is not refined, but its children are. -/
def refined (b : RuleBook Tag) (f : Frame) : Option Frame :=
  (b.refineTrees f.children).toOption.map fun children => { f with children }

end Frame

theorem toOption_bind {α β : Type} (x : Except Error α) (f : α → Except Error β) :
    (x >>= f).toOption = x.toOption.bind fun a => (f a).toOption := by
  cases x <;> rfl

namespace Frame
variable {b : RuleBook Tag}

@[simp] theorem refined_addLine (f : Frame) (line : String) :
    (f.addLine line).refined b = (f.refined b).map (·.addLine line) := by
  simp [refined, addLine, Function.comp_def]

theorem refined_addChild (f : Frame) (t : Tag) :
    (f.addChild t).refined b =
      (f.refined b).bind fun f => (b.refineTree t).toOption.map f.addChild := by
  simp only [refined, addChild, RuleBook.refineTrees_append, RuleBook.refineTrees, toOption_bind]
  cases (b.refineTrees f.children) <;> cases b.refineTree t <;> rfl

/-- A frame that is closed is refined after its children. -/
theorem refineTree_closed (f : Frame) :
    (b.refineTree f.closed).toOption = (f.refined b).bind fun f => (b.refine f.closed).toOption := by
  rw [RuleBook.refineTree_eq, toOption_bind]
  change ((b.refineTrees f.children).toOption.bind _) = _
  cases h : b.refineTrees f.children with
  | ok children =>
    simp only [refined, h, Except.toOption, Option.bind_some, Option.map_some]
    rfl
  | error e => simp [refined, h, Except.toOption]

theorem spine_mapM {fs fs' : List Frame} (h : fs.mapM (refined b) = some fs') :
    (fs'.map fun f => (f.name, f.content)) = fs.map fun f => (f.name, f.content) := by
  induction fs generalizing fs' with
  | nil =>
    cases h
    rfl
  | cons f fs ih =>
    rw [List.mapM_cons] at h
    obtain ⟨f', head, h⟩ := Option.bind_eq_some_iff.1 h
    obtain ⟨fs', tail, ⟨⟩⟩ := Option.bind_eq_some_iff.1 h
    obtain ⟨children, -, rfl⟩ := Option.map_eq_some_iff.1 head
    simp [ih tail]

theorem mapM_modify {fs : List Frame} {k : Nat} (hk : k < fs.length) (t : Tag) :
    (fs.modify k (·.addChild t)).mapM (refined b) =
      (fs.mapM (refined b)).bind fun fs =>
        (b.refineTree t).toOption.map fun t => fs.modify k (·.addChild t) := by
  induction fs generalizing k with
  | nil => simp at hk
  | cons f fs ih =>
    cases k with
    | zero =>
      simp only [List.modify_zero_cons, List.mapM_cons, refined_addChild]
      cases f.refined b <;> cases fs.mapM (refined b) <;> cases (b.refineTree t).toOption <;> rfl
    | succ k =>
      simp only [List.modify_succ_cons, List.mapM_cons, ih (Nat.lt_of_succ_lt_succ hk)]
      cases f.refined b <;> cases fs.mapM (refined b) <;> cases (b.refineTree t).toOption <;> rfl

end Frame

namespace RuleBook
variable {b : RuleBook Tag}

theorem refineBody_push (body : Body) (t : Tag) :
    (b.refineBody (body.push t)).toOption =
      (b.refineBody body).toOption.bind fun body => (b.refineTree t).toOption.map body.push := by
  simp only [refineBody, Body.push, Array.toList_push, List.mapM_append]
  cases body.entries.toList.mapM b.refineEntry <;> cases h : b.refineTree t <;>
    simp [refineEntry, h, Except.toOption, Body.push]

theorem refineBody_pushBlank (body : Body) :
    (b.refineBody body.pushBlank).toOption = (b.refineBody body).toOption.map Body.pushBlank := by
  simp only [refineBody, Body.pushBlank, Array.toList_push, List.mapM_append]
  cases body.entries.toList.mapM b.refineEntry <;>
    simp [refineEntry, Except.toOption, Body.pushBlank]

end RuleBook

namespace Nest
variable {b : RuleBook Tag}

/-- A nest with all its complete tags refined. -/
def refined (b : RuleBook Tag) (n : Nest) : Option Nest :=
  (n.frames.mapM (Frame.refined b)).bind fun frames =>
    (b.refineBody n.body).toOption.map fun body => { n with frames, body }

theorem refined_attach {n : Nest} {k : Nat} (hk : k ≤ n.frames.length) (t : Tag) :
    (n.attach t k).refined b =
      (n.refined b).bind fun n => (b.refineTree t).toOption.map (n.attach · k) := by
  cases k with
  | zero =>
    simp only [refined, attach, RuleBook.refineBody_push]
    cases n.frames.mapM (Frame.refined b) <;> cases (b.refineBody n.body).toOption <;>
      cases (b.refineTree t).toOption <;> rfl
  | succ k =>
    simp only [refined, attach, Frame.mapM_modify hk]
    cases n.frames.mapM (Frame.refined b) <;> cases (b.refineBody n.body).toOption <;>
      cases (b.refineTree t).toOption <;> rfl

end Nest

namespace Nest
variable {r : Refiner} {c : Config} {n : Nest}

/-- Refinement changes neither the names and contents of open tags nor the declarations. -/
theorem refined_keeps {b : RuleBook Tag} {n' : Nest} (h : n.refined b = some n') :
    n'.spine = n.spine ∧ n'.doctype = n.doctype ∧ n'.version = n.version := by
  obtain ⟨frames, opened, h⟩ := Option.bind_eq_some_iff.1 h
  obtain ⟨body, -, rfl⟩ := Option.map_eq_some_iff.1 h
  exact ⟨Frame.spine_mapM opened, rfl, rfl⟩

theorem refined_concat {b : RuleBook Tag} {fs : List Frame} {f : Frame} (hn : n.frames = fs ++ [f]) :
    n.refined b = (({ n with frames := fs } : Nest).refined b).bind fun n =>
      (f.refined b).map fun f => { n with frames := n.frames ++ [f] } := by
  simp only [refined, hn, List.mapM_append]
  cases fs.mapM (Frame.refined b) <;> cases (b.refineBody n.body).toOption <;>
    cases h : f.refined b <;> simp [h]

/-- A step under a condition that refinement does not change. -/
theorem bind_guarded {b : RuleBook Tag} {P : Nest → Prop} {_ : DecidablePred P} {Q : Prop}
    {_ : Decidable Q} {move : Nest → Option Nest} {plain : Option Nest}
    (same : ∀ n', n.refined b = some n' → (P n' ↔ Q))
    (moved : Q → (n.refined b).bind move = plain.bind (refined b)) :
    ((n.refined b).bind fun n => if P n then move n else none) =
      (if Q then plain else none).bind (refined b) := by
  by_cases holds : Q
  · rw [if_pos holds, ← moved holds]
    exact Option.bind_congr fun n' h => if_pos ((same n' h).2 holds)
  · rw [if_neg holds, Option.bind_none]
    exact Option.bind_eq_none_iff.2 fun n' h => if_neg fun holds' => holds ((same n' h).1 holds')

theorem length_spine (n : Nest) : n.spine.length = n.frames.length := List.length_map _

theorem declareDoctype_refined (d : Doctype) :
    (n.refined r.tags).bind (·.declareDoctype (.ruled r c) d) =
      (n.declareDoctype (.plain c) d).bind (refined r.tags) := by
  refine bind_guarded (fun n' h => ?_) fun _ => ?_
  · rw [(refined_keeps h).2.1]
    exact Iff.rfl
  · simp only [refined, Option.bind_some]
    cases n.frames.mapM (Frame.refined r.tags) <;> cases (r.tags.refineBody n.body).toOption <;> rfl

theorem declareVersion_refined (v : Version) :
    (n.refined r.tags).bind (·.declareVersion v) = (n.declareVersion v).bind (refined r.tags) := by
  refine bind_guarded (fun n' h => ?_) fun _ => ?_
  · rw [(refined_keeps h).2.2]
  · simp only [refined, Option.bind_some]
    cases n.frames.mapM (Frame.refined r.tags) <;> cases (r.tags.refineBody n.body).toOption <;> rfl

theorem opening_refined (k : Nat) (name : String) (pairs : List (String × String)) :
    (n.refined r.tags).bind (·.opening c k name pairs) =
      (n.opening c k name pairs).bind (refined r.tags) := by
  refine bind_guarded (fun n' h => ?_) fun _ => ?_
  · rw [← length_spine, ← length_spine, (refined_keeps h).1]
  · rw [Option.bind_some,
      refined_concat (n := { n with frames := n.frames ++ [.ofHead name pairs] }) rfl]
    rfl

theorem void_refined (k : Nat) (name : String) (pairs : List (String × String)) :
    (n.refined r.tags).bind (·.void (.ruled r c) k name pairs) =
      (n.void (.plain c) k name pairs).bind (refined r.tags) := by
  refine bind_guarded (fun n' h => ?_) fun fit => ?_
  · rw [← length_spine, ← length_spine, (refined_keeps h).1]
    rfl
  · change _ = (n.attach (.ofVoid name pairs) k).refined r.tags
    rw [refined_attach fit.1]
    rfl

theorem closing_guarded (g : Scan.Setting) (n : Nest) (k : Nat) (name : String) :
    n.closing g k name =
      if k + 1 = n.spine.length ∧ n.spine.getLast?.map Prod.fst = some name then
        n.frames.getLast?.bind fun f =>
          (g.refineTag f.closed).toOption.map (attach { n with frames := n.frames.dropLast } · k)
      else none := by
  rcases List.eq_nil_or_concat n.frames with empty | ⟨fs, f, hn⟩
  · simp [closing, empty]
  · rw [List.concat_eq_append] at hn
    simp [closing, hn, spine]

theorem closing_refined (k : Nat) (name : String) :
    (n.refined r.tags).bind (·.closing (.ruled r c) k name) =
      (n.closing (.plain c) k name).bind (refined r.tags) := by
  simp only [closing_guarded]
  refine bind_guarded (fun n' h => by rw [(refined_keeps h).1]) fun fit => ?_
  rcases List.eq_nil_or_concat n.frames with empty | ⟨fs, f, hn⟩
  · simp [spine, empty] at fit
  · rw [List.concat_eq_append] at hn
    have depth : k = fs.length := by simpa [spine, hn] using fit.1
    have plain : (n.frames.getLast?.bind fun f =>
        ((Scan.Setting.plain c).refineTag f.closed).toOption.map
          (attach { n with frames := n.frames.dropLast } · k)) =
        some (attach { n with frames := fs } f.closed k) := by
      rw [hn, List.getLast?_concat, List.dropLast_concat]
      rfl
    -- The children of the frame that closes are refined already, so that it is refined itself is
    -- all that is left of refining its tree.
    rw [plain, Option.bind_some, refined_attach (Nat.le_of_eq depth), refined_concat hn,
      Option.bind_assoc, Frame.refineTree_closed]
    refine Option.bind_congr fun m _ => ?_
    cases f.refined r.tags with
    | none => rfl
    | some f => simp; rfl

theorem content_guarded (c : Config) (n : Nest) (k : Nat) (line : String) :
    n.content c k line =
      if k = n.spine.length ∧ n.spine.getLast?.any
          (fun p => (Tag.joinLine p.2 line).utf8ByteSize ≤ c.maxStringLength) = true then
        n.frames.getLast?.map fun f => { n with frames := n.frames.dropLast ++ [f.addLine line] }
      else none := by
  rcases List.eq_nil_or_concat n.frames with empty | ⟨fs, f, hn⟩
  · simp [content, empty]
  · rw [List.concat_eq_append] at hn
    simp [content, hn, spine]

theorem content_refined (k : Nat) (line : String) :
    (n.refined r.tags).bind (·.content c k line) = (n.content c k line).bind (refined r.tags) := by
  simp only [content_guarded]
  refine bind_guarded (fun n' h => by rw [(refined_keeps h).1]) fun fit => ?_
  rcases List.eq_nil_or_concat n.frames with empty | ⟨fs, f, hn⟩
  · simp [spine, empty] at fit
  · rw [List.concat_eq_append] at hn
    rw [hn, List.getLast?_concat, List.dropLast_concat, Option.map_some, Option.bind_some,
      refined_concat hn, refined_concat (n := { n with frames := fs ++ [f.addLine line] }) rfl,
      Frame.refined_addLine, Option.bind_assoc]
    refine Option.bind_congr fun m _ => ?_
    cases f.refined r.tags with
    | none => rfl
    | some f => simp

theorem blank_refined :
    (n.refined r.tags).bind (fun n => some (n.blank c)) = (n.blank c).refined r.tags := by
  have empty {n' : Nest} (h : n.refined r.tags = some n') : n'.frames = [] ↔ n.frames = [] := by
    rw [← List.length_eq_zero_iff, ← List.length_eq_zero_iff, ← length_spine, ← length_spine,
      (refined_keeps h).1]
  by_cases kept : c.blankLines = .preserve ∧ n.frames = []
  · have pushed : (n.blank c).refined r.tags =
        (n.refined r.tags).bind fun n => some { n with body := n.body.pushBlank } := by
      simp only [blank, if_pos kept, refined, RuleBook.refineBody_pushBlank]
      cases n.frames.mapM (Frame.refined r.tags) <;> cases (r.tags.refineBody n.body).toOption <;> rfl
    rw [pushed]
    refine Option.bind_congr fun n' h => ?_
    rw [blank, if_pos ⟨kept.1, (empty h).2 kept.2⟩]
  · have same : n.blank c = n := if_neg kept
    rw [same]
    refine (Option.bind_congr fun n' h => ?_).trans (Option.bind_fun_some _)
    rw [blank, if_neg fun kept' => kept ⟨kept'.1, (empty h).1 kept'.2⟩]

/-- A nest that refines as it goes takes the steps of the plain nest. -/
theorem step_refined (m : Nat × Mark) :
    (n.refined r.tags).bind (·.step (.ruled r c) m) =
      (n.step (.plain c) m).bind (refined r.tags) := by
  obtain ⟨k, mark⟩ := m
  cases mark with
  | declaration d =>
    cases d with
    | doctype stylesheet => exact declareDoctype_refined ⟨stylesheet⟩
    | version number => exact declareVersion_refined ⟨number⟩
  | opening name pairs => exact opening_refined k name pairs
  | void name pairs => exact void_refined k name pairs
  | closing name => exact closing_refined k name
  | blank => exact blank_refined
  | content line => exact content_refined k line

theorem run_refined (ms : List (Nat × Mark)) :
    (n.refined r.tags).bind (·.run (.ruled r c) ms) =
      (n.run (.plain c) ms).bind (refined r.tags) := by
  induction ms generalizing n with
  | nil => simp
  | cons m ms ih =>
    calc (n.refined r.tags).bind (·.run (.ruled r c) (m :: ms))
        = ((n.refined r.tags).bind (·.step (.ruled r c) m)).bind (·.run (.ruled r c) ms) := by
          simp [Option.bind_assoc]
      _ = ((n.step (.plain c) m).bind (refined r.tags)).bind (·.run (.ruled r c) ms) := by
          rw [step_refined]
      _ = (n.step (.plain c) m).bind fun n => (n.run (.plain c) ms).bind (refined r.tags) := by
          simp only [Option.bind_assoc, ih]
      _ = (n.run (.plain c) (m :: ms)).bind (refined r.tags) := by
          simp [Option.bind_assoc]

theorem document?_refined :
    (n.refined r.tags).bind document? =
      n.document?.bind fun d => (r.tags.refineBody d.entries).toOption.map fun entries =>
        { d with entries } := by
  cases hd : n.document? with
  | none =>
    -- Refinement opens and closes no tags and declares nothing, so it does not end a nest either.
    rw [Option.bind_none]
    refine Option.bind_eq_none_iff.2 fun n' h => Option.eq_none_iff_forall_ne_some.2 fun d' hd' => ?_
    obtain ⟨empty, doctype, version, -, -⟩ := document?_eq_some.1 hd'
    obtain ⟨spine, sameDoctype, sameVersion⟩ := refined_keeps h
    have empty₀ : n.frames = [] := by simpa [Nest.spine, empty] using spine.symm
    have ended : n.document? =
        some { entries := n.body, doctype := d'.doctype, version := d'.version } :=
      document?_eq_some.2 ⟨empty₀, sameDoctype ▸ doctype, sameVersion ▸ version, rfl, rfl⟩
    simp [hd] at ended
  | some d =>
    obtain ⟨empty, doctype, version, body, single⟩ := document?_eq_some.1 hd
    cases d
    simp only at doctype version body single
    subst body single
    cases h : (r.tags.refineBody n.body).toOption <;>
      simp [refined, document?, empty, doctype, version, h]

end Nest

namespace Scan

/-- A scan under rules succeeds with what is left when the document that is scanned without them
is refined from the leaves up. -/
theorem scan_ruled_eq_ok {r : Refiner} (restrained : r.Restrained) {c : Config} {text : String}
    {d : Document} :
    (scan (.ruled r c) text).result = .ok d ↔
      ∃ d₀, (scan (.plain c) text).result = .ok d₀ ∧ r.refine d₀ = .ok d := by
  have start : Nest.refined r.tags {} = some {} := rfl
  have run (marks : List (Nat × Mark)) :
      Nest.run (.ruled r c) {} marks = (Nest.run (.plain c) {} marks).bind (Nest.refined r.tags) := by
    rw [← Nest.run_refined, start, Option.bind_some]
  rw [scan_eq_ok (Setting.stock_ruled restrained c)]
  simp only [scan_eq_ok (Setting.stock_plain c)]
  constructor
  · rintro ⟨admitted, marks, n, d₁, read, ran, ended, refined⟩
    rw [run, Option.bind_eq_some_iff] at ran
    obtain ⟨n₀, ran, hn⟩ := ran
    have both := Nest.document?_refined (r := r) (n := n₀)
    rw [hn, Option.bind_some, ended] at both
    obtain ⟨d₀, ended₀, h⟩ := Option.bind_eq_some_iff.1 both.symm
    obtain ⟨entries, tags, rfl⟩ := Option.map_eq_some_iff.1 h
    refine ⟨d₀, ⟨admitted, marks, n₀, d₀, read, ran, ended₀, rfl⟩, ?_⟩
    exact bind_eq_ok.2 ⟨entries, toOption_eq_some.1 tags, refined⟩
  · rintro ⟨_, ⟨admitted, marks, n₀, d₀, read, ran, ended₀, ⟨⟩⟩, h⟩
    obtain ⟨entries, tags, refined⟩ := bind_eq_ok.1 h
    have both := Nest.document?_refined (r := r) (n := n₀)
    rw [ended₀, Option.bind_some, toOption_eq_some.2 tags, Option.map_some] at both
    obtain ⟨n, hn, ended⟩ := Option.bind_eq_some_iff.1 both
    refine ⟨admitted, marks, n, _, read, ?_, ended, refined⟩
    rw [run, ran, Option.bind_some, hn]

end Scan

namespace Context

/-- Two readings succeed on the same text, with matching documents that have one text. -/
def SameReading (x y : Except Error Document) : Prop :=
  ((∃ d, x = .ok d) ↔ ∃ e, y = .ok e) ∧
    ∀ d e, x = .ok d → y = .ok e → e.matching d = true ∧ d.render = e.render

theorem readText_ruled_iff {r : Refiner} (restrained : r.Restrained) {c : Config}
    {name text : String} {d : Document} :
    ((ruled r).readText c name text).result = .ok d ↔
      ∃ d₀, (empty.readText c name text).result = .ok d₀ ∧ r.refine d₀ = .ok d := by
  simp only [readText_ruled, readText_empty, Scan.scan_ruled_eq_ok restrained]

theorem parse_ruled_iff {r : Refiner} (restrained : r.Restrained) {text : String} {d : Document} :
    ((ruled r).parse text).result = .ok d ↔
      ∃ d₀, (empty.parse text).result = .ok d₀ ∧ r.refine d₀ = .ok d := by
  have plain (d₀ : Document) : (empty.parse text).result = .ok d₀ ↔
      text.utf8ByteSize ≤ ({} : Config).maxSize ∧ (Scan.scan (.plain {}) text).result = .ok d₀ :=
    parse_ruled
  simp only [parse_ruled, plain, Scan.scan_ruled_eq_ok restrained, and_assoc, exists_and_left]

theorem sameReading_of_refine {x y : Except Error Document}
    (h : ∀ d, x = .ok d ↔ ∃ d₀, y = .ok d₀ ∧ Refiner.builtin.refine d₀ = .ok d) :
    SameReading x y := by
  have reshaped (d₀ : Document) := Refiner.refine_matching (Scan.Setting.reshaping_refining {}) d₀
  constructor
  · constructor
    · rintro ⟨d, hd⟩
      obtain ⟨d₀, hd₀, -⟩ := (h d).1 hd
      exact ⟨d₀, hd₀⟩
    · rintro ⟨d₀, hd₀⟩
      obtain ⟨d, refined, -⟩ := reshaped d₀
      exact ⟨d, (h d).2 ⟨d₀, hd₀, refined⟩⟩
  · intro d e hd he
    obtain ⟨d₀, hd₀, refined⟩ := (h d).1 hd
    cases hd₀.symm.trans he
    obtain ⟨d', refined', same⟩ := reshaped e
    cases refined'.symm.trans refined
    exact same

/-- Reading under rules that leave open tags and properties with a value alone is reading without
rules and then refining from the leaves up. The built-in rules never make reading fail, and change
neither what a document holds nor its text. -/
theorem refine_while_reading :
    (∀ r : Refiner, r.Restrained → ∀ (text : String) (d : Document),
      (((ruled r).parse text).result = .ok d ↔
        ∃ d₀, (empty.parse text).result = .ok d₀ ∧ r.refine d₀ = .ok d) ∧
      ∀ (c : Config) (name : String), ((ruled r).readText c name text).result = .ok d ↔
        ∃ d₀, (empty.readText c name text).result = .ok d₀ ∧ r.refine d₀ = .ok d) ∧
    ∀ text : String, SameReading (standard.parse text).result (empty.parse text).result ∧
      ∀ (c : Config) (name : String), SameReading (standard.readText c name text).result
        (empty.readText c name text).result := by
  constructor
  · intro r restrained text d
    exact ⟨parse_ruled_iff restrained, fun c name => readText_ruled_iff restrained⟩
  · intro text
    exact ⟨sameReading_of_refine fun d => parse_ruled_iff Refiner.restrained_builtin,
      fun c name => sameReading_of_refine fun d => readText_ruled_iff Refiner.restrained_builtin⟩

/-- Two rules that take closed tags: one renames items, and the other makes a list of a tag that
holds what the first has made. -/
def entryRules : Refiner where
  tags :=
    let tags : RuleBook Tag := (RuleBook.register {} "entry"
      ⟨fun t => t.closed && t.name == "item", fun t => .ok { t with name := "entry" }⟩).2
    (tags.register "entries"
      ⟨fun t => t.closed && t.children.any (·.name == "entry"), Tag.narrowToList⟩).2

theorem restrained_entryRules : entryRules.Restrained where
  tags e he t unclosed := by
    have rules : entryRules.tags.rules.entries =
        [("entry", ⟨fun t => t.closed && t.name == "item", fun t => .ok { t with name := "entry" }⟩),
          ("entries",
            ⟨fun t => t.closed && t.children.any (·.name == "entry"), Tag.narrowToList⟩)] := rfl
    simp only [rules, List.mem_cons, List.not_mem_nil, or_false] at he
    rcases he with rfl | rfl <;> simp [unclosed]
  properties _ he := nomatch he

/-- The second rule takes the outer tag for the name that the first has given to the inner one. -/
theorem parse_entryRules : entryRules.Restrained ∧
    ∃ d,
      ((ruled entryRules).parse
        "<!DOCTYPE skd default>\n<!SKD version=\"0.2\">\n<list>\n\t<item />\n</list>\n").result = .ok d ∧
      d.render = "<!DOCTYPE skd default>\n<!SKD version=\"0.2\">\n\n<list>\n\t<entry />\n</list>\n" ∧
      d.entries.tags.map Tag.item? = [some "entry"] := by
  have scanned : (Scan.scan (.plain {})
      "<!DOCTYPE skd default>\n<!SKD version=\"0.2\">\n<list>\n\t<item />\n</list>\n").result =
        .ok {
          entries := .ofTags [{ name := "list", closed := true, children := [.ofVoid "item" []] }]
          doctype := ⟨"default"⟩
          version := ⟨"0.2"⟩ } :=
    (Scan.scan_eq_ok (Scan.Setting.stock_plain {})).2 ⟨by decide,
      [(0, .declaration (.doctype "default")), (0, .declaration (.version "0.2")),
        (0, .opening "list" []), (1, .void "item" []), (0, .closing "list")], _, _, rfl, rfl, rfl, rfl⟩
  have accepted := parse_ruled (r := {}).2 ⟨by decide, scanned⟩
  have refined := (refine_while_reading.1 entryRules restrained_entryRules _ _).1.2
    ⟨_, accepted, rfl⟩
  exact ⟨restrained_entryRules, _, refined, by decide, rfl⟩

end Context
end TabMarkup
