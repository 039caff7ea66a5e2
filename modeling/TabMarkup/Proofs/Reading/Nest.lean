import TabMarkup.Proofs.Lists
import TabMarkup.Proofs.Reading.Mark

/-!
A nest: the open tags of a document that is being read, the outermost first, so that the
place of a tag in the nest is its indentation. A nest is moved by marks; a mark that does not
fit it, or that a limit forbids, leads nowhere.
-/
namespace TabMarkup

/-- The properties that pairs make. Of equal pairs only the first counts. -/
def Property.ofPairs (pairs : List (String × String)) : List Property :=
  pairs.eraseDups.map fun p => { name := p.1, value := some p.2 }

/-- What an open tag holds. It is neither void nor closed, and has no shape. -/
structure Frame where
  name : String
  properties : List Property := []
  content : Option String := none
  children : List Tag := []

namespace Frame

def ofHead (name : String) (pairs : List (String × String)) : Frame :=
  { name, properties := Property.ofPairs pairs }

def opened (f : Frame) : Tag :=
  { name := f.name, content := f.content, children := f.children, properties := f.properties }

def closed (f : Frame) : Tag := f.opened.close

def addChild (f : Frame) (t : Tag) : Frame := { f with children := f.children ++ [t] }

def addLine (f : Frame) (line : String) : Frame :=
  { f with content := some (Tag.joinLine f.content line) }

end Frame

def Tag.ofVoid (name : String) (pairs : List (String × String)) : Tag :=
  { name, properties := Property.ofPairs pairs, void := true, closed := true }

structure Nest where
  frames : List Frame := []
  body : Body := .empty
  doctype : Option Doctype := none
  version : Option Version := none

namespace Nest

/-- Makes a complete tag part of the open tag one level above it, or of the body. -/
def attach (n : Nest) (t : Tag) : Nat → Nest
  | 0 => { n with body := n.body.push t }
  | k + 1 => { n with frames := n.frames.modify k (·.addChild t) }

def declareDoctype (g : Scan.Setting) (n : Nest) (d : Doctype) : Option Nest :=
  if n.doctype = none ∧ (g.config.strictDoctypes = true → g.knows d = true) then
    some { n with doctype := some d }
  else none

def declareVersion (n : Nest) (v : Version) : Option Nest :=
  if n.version = none then some { n with version := some v } else none

def declare (g : Scan.Setting) (n : Nest) : Declaration → Option Nest
  | .doctype stylesheet => n.declareDoctype g ⟨stylesheet⟩
  | .version number => n.declareVersion ⟨number⟩

def opening (c : Config) (n : Nest) (k : Nat) (name : String) (pairs : List (String × String)) :
    Option Nest :=
  if k = n.frames.length ∧ c.Fits pairs then
    some { n with frames := n.frames ++ [.ofHead name pairs] }
  else none

def void (g : Scan.Setting) (n : Nest) (k : Nat) (name : String) (pairs : List (String × String)) :
    Option Nest :=
  if k ≤ n.frames.length ∧ g.config.Fits pairs then
    (g.refineTag (.ofVoid name pairs)).toOption.map (n.attach · k)
  else none

def closing (g : Scan.Setting) (n : Nest) (k : Nat) (name : String) : Option Nest :=
  n.frames.getLast?.bind fun f =>
    if k + 1 = n.frames.length ∧ f.name = name then
      (g.refineTag f.closed).toOption.map
        (Nest.attach { n with frames := n.frames.dropLast } · k)
    else none

def content (c : Config) (n : Nest) (k : Nat) (line : String) : Option Nest :=
  n.frames.getLast?.bind fun f =>
    if k = n.frames.length ∧ (Tag.joinLine f.content line).utf8ByteSize ≤ c.maxStringLength then
      some { n with frames := n.frames.dropLast ++ [f.addLine line] }
    else none

/-- A blank line outside of every tag is remembered where blank lines are preserved. -/
def blank (c : Config) (n : Nest) : Nest :=
  if c.blankLines = .preserve ∧ n.frames = [] then { n with body := n.body.pushBlank } else n

def step (g : Scan.Setting) (n : Nest) : Nat × Mark → Option Nest
  | (_, .declaration d) => n.declare g d
  | (k, .opening name pairs) => n.opening g.config k name pairs
  | (k, .void name pairs) => n.void g k name pairs
  | (k, .closing name) => n.closing g k name
  | (_, .blank) => some (n.blank g.config)
  | (k, .content line) => n.content g.config k line

def run (g : Scan.Setting) (n : Nest) (ms : List (Nat × Mark)) : Option Nest := ms.foldlM (step g) n

/-- The document at the end of a run, before its refinement. -/
def document? (n : Nest) : Option Document :=
  match n.frames, n.doctype, n.version with
  | [], some doctype, some version => some { entries := n.body, doctype, version }
  | _, _, _ => none

@[simp] theorem run_nil (g : Scan.Setting) (n : Nest) : n.run g [] = some n := rfl

@[simp] theorem run_cons (g : Scan.Setting) (n : Nest) (m : Nat × Mark) (ms : List (Nat × Mark)) :
    n.run g (m :: ms) = (n.step g m).bind (·.run g ms) := by
  simp [run, List.foldlM_cons]

theorem run_append (g : Scan.Setting) (n : Nest) (ms ns : List (Nat × Mark)) :
    n.run g (ms ++ ns) = (n.run g ms).bind (·.run g ns) := by
  simp [run, List.foldlM_append]

theorem declarations_attach (n : Nest) (t : Tag) (k : Nat) :
    (n.attach t k).doctype = n.doctype ∧ (n.attach t k).version = n.version := by
  cases k <;> exact ⟨rfl, rfl⟩

/-! ### What a step can do -/

variable {g : Scan.Setting} {c : Config} {n n' : Nest} {k : Nat}

theorem declareDoctype_eq_some {d : Doctype} :
    n.declareDoctype g d = some n' ↔
      n.doctype = none ∧ (g.config.strictDoctypes = true → g.knows d = true) ∧
        n' = { n with doctype := some d } := by
  unfold declareDoctype
  split
  · rename_i h
    rw [Option.some.injEq, eq_comm]
    exact ⟨fun e => ⟨h.1, h.2, e⟩, fun e => e.2.2⟩
  · rename_i h
    simp only [reduceCtorEq, false_iff]
    exact fun e => h ⟨e.1, e.2.1⟩

theorem declareVersion_eq_some {v : Version} :
    n.declareVersion v = some n' ↔ n.version = none ∧ n' = { n with version := some v } := by
  unfold declareVersion
  split
  · rename_i h
    simp only [h, Option.some.injEq, true_and]
    exact eq_comm
  · rename_i h
    simp [h]

theorem opening_eq_some {name : String} {pairs : List (String × String)} :
    n.opening c k name pairs = some n' ↔
      k = n.frames.length ∧ c.Fits pairs ∧
        n' = { n with frames := n.frames ++ [.ofHead name pairs] } := by
  unfold opening
  split
  · rename_i h
    simp only [h, Option.some.injEq, true_and]
    exact eq_comm
  · rename_i h
    simp only [reduceCtorEq, false_iff]
    exact fun e => h ⟨e.1, e.2.1⟩

theorem void_eq_some {name : String} {pairs : List (String × String)} :
    n.void g k name pairs = some n' ↔
      k ≤ n.frames.length ∧ g.config.Fits pairs ∧
        ∃ t, g.refineTag (.ofVoid name pairs) = .ok t ∧ n' = n.attach t k := by
  unfold void
  split
  · rename_i h
    simp only [h, Option.map_eq_some_iff, toOption_eq_some, true_and]
    exact exists_congr fun t => and_congr_right fun _ => eq_comm
  · rename_i h
    simp only [reduceCtorEq, false_iff]
    exact fun e => h ⟨e.1, e.2.1⟩

theorem closing_eq_some {name : String} :
    n.closing g k name = some n' ↔
      ∃ fs f t, n.frames = fs ++ [f] ∧ k = fs.length ∧ f.name = name ∧
        g.refineTag f.closed = .ok t ∧ n' = ({ n with frames := fs } : Nest).attach t k := by
  unfold closing
  constructor
  · intro h
    obtain ⟨f, last, h⟩ := Option.bind_eq_some_iff.1 h
    obtain ⟨fs, hfs⟩ := List.getLast?_eq_some_iff.1 last
    split at h
    · rename_i fit
      obtain ⟨t, ht, rfl⟩ := Option.map_eq_some_iff.1 h
      exact ⟨fs, f, t, hfs, by simpa [hfs] using fit.1, fit.2, toOption_eq_some.1 ht, by simp [hfs]⟩
    · cases h
  · rintro ⟨fs, f, t, hfs, rfl, rfl, ht, rfl⟩
    simp [hfs, toOption_eq_some.2 ht]

theorem content_eq_some {line : String} :
    n.content c k line = some n' ↔
      ∃ fs f, n.frames = fs ++ [f] ∧ k = fs.length + 1 ∧
        (Tag.joinLine f.content line).utf8ByteSize ≤ c.maxStringLength ∧
        n' = { n with frames := fs ++ [f.addLine line] } := by
  unfold content
  constructor
  · intro h
    obtain ⟨f, last, h⟩ := Option.bind_eq_some_iff.1 h
    obtain ⟨fs, hfs⟩ := List.getLast?_eq_some_iff.1 last
    split at h
    · rename_i fit
      cases h
      exact ⟨fs, f, hfs, by simpa [hfs] using fit.1, fit.2, by simp [hfs]⟩
    · cases h
  · rintro ⟨fs, f, hfs, rfl, short, rfl⟩
    simp [hfs, short]

theorem document?_eq_some {d : Document} :
    n.document? = some d ↔
      n.frames = [] ∧ n.doctype = some d.doctype ∧ n.version = some d.version ∧ d.entries = n.body ∧
        d.singleton = false := by
  unfold document?
  split
  · rename_i doctype version hf hd hv
    cases d
    simp only [hf, hd, hv, Option.some.injEq, Document.mk.injEq, true_and]
    exact ⟨fun e => ⟨e.2.1, e.2.2.1, e.1.symm, e.2.2.2.symm⟩,
      fun e => ⟨e.2.2.1.symm, e.1, e.2.1, e.2.2.2.symm⟩⟩
  · rename_i other
    simp only [reduceCtorEq, false_iff]
    exact fun e => other _ _ e.1 e.2.1 e.2.2.1

/-! ### Declarations that have been made -/

/-- Both declarations have been made. -/
def Declared (n : Nest) : Prop := n.doctype.isSome ∧ n.version.isSome

/-- Then no mark is another, and they stay as they are. -/
theorem Declared.step {m : Nat × Mark} (h : n.Declared) (hn : n.step g m = some n') :
    (n'.doctype = n.doctype ∧ n'.version = n.version) ∧ ∀ d, m.2 ≠ .declaration d := by
  obtain ⟨k, mark⟩ := m
  cases mark with
  | declaration d =>
    cases d with
    | doctype stylesheet =>
      obtain ⟨none, -⟩ := declareDoctype_eq_some.1 hn
      simp [Declared, none] at h
    | version number =>
      obtain ⟨none, -⟩ := declareVersion_eq_some.1 hn
      simp [Declared, none] at h
  | opening name pairs =>
    obtain ⟨-, -, rfl⟩ := opening_eq_some.1 hn
    simp
  | void name pairs =>
    obtain ⟨-, -, t, -, rfl⟩ := void_eq_some.1 hn
    exact ⟨declarations_attach n t k, by simp⟩
  | closing name =>
    obtain ⟨fs, f, t, -, -, -, -, rfl⟩ := closing_eq_some.1 hn
    exact ⟨declarations_attach { n with frames := fs } t k, by simp⟩
  | blank =>
    cases hn
    unfold Nest.blank
    split <;> simp
  | content line =>
    obtain ⟨fs, f, -, -, -, rfl⟩ := content_eq_some.1 hn
    simp

theorem Declared.run {ms : List (Nat × Mark)} (h : n.Declared) (hn : n.run g ms = some n') :
    (n'.doctype = n.doctype ∧ n'.version = n.version) ∧ ∀ m ∈ ms, ∀ d, m.2 ≠ .declaration d := by
  induction ms generalizing n with
  | nil =>
    cases hn
    simp
  | cons m ms ih =>
    rw [run_cons, Option.bind_eq_some_iff] at hn
    obtain ⟨n₁, first, rest⟩ := hn
    obtain ⟨⟨doctype, version⟩, other⟩ := h.step first
    have next : n₁.Declared := by rwa [Declared, doctype, version]
    obtain ⟨⟨doctype', version'⟩, others⟩ := ih next rest
    exact ⟨⟨doctype'.trans doctype, version'.trans version⟩, List.forall_mem_cons.2 ⟨other, others⟩⟩

end Nest
end TabMarkup
