import TabMarkup.Proofs.Reading.Simulation
import TabMarkup.Proofs.Refinement.Builtin
import TabMarkup.Reading.Parse
import TabMarkup.Reader

/-!
Reading in the two contexts that a program starts from, the empty one and the standard one.
Both read with the stock service, and no rule of theirs takes an open tag.
-/
namespace TabMarkup

namespace Refiner

/-- No rule takes a tag that is not closed, or a property that has a value. -/
structure Restrained (r : Refiner) : Prop where
  tags : ∀ e ∈ r.tags.rules.entries, ∀ t : Tag, t.closed = false → e.2.accepts t = false
  properties : ∀ e ∈ r.properties.rules.entries, ∀ p : Property, p.value.isSome →
    e.2.accepts p = false

theorem restrained_none : Restrained {} where
  tags _ he := nomatch he
  properties _ he := nomatch he

theorem restrained_builtin : Restrained builtin where
  tags e he t unclosed := by
    have rules : builtin.tags.rules.entries =
        [("list", ⟨isList, Tag.narrowToList⟩), ("pair", ⟨isPair, Tag.narrowToPair⟩),
          ("scalar", ⟨isScalar, Tag.narrowToScalar⟩)] := rfl
    simp only [rules, List.mem_cons, List.not_mem_nil, or_false] at he
    rcases he with rfl | rfl | rfl
    · simp [isList, unclosed]
    · simp [isPair, unclosed]
    · simp [isScalar, unclosed]
  properties e he p valued := by
    have rules : builtin.properties.rules.entries = [("marker", ⟨isMarker, Property.narrow⟩)] := rfl
    simp only [rules, List.mem_singleton] at he
    subst he
    obtain ⟨v, hv⟩ := Option.isSome_iff_exists.1 valued
    simp [isMarker, hv]

end Refiner

/-- The empty context with rules. -/
def Context.ruled (r : Refiner) : Context := { Context.empty with refiner := r }

namespace Scan.Setting

def ruled (r : Refiner) (c : Config) : Setting := ⟨.ruled r, 0, c⟩

def plain (c : Config) : Setting := ⟨.empty, 0, c⟩

/-- A scan in the standard context, which refines what was read. -/
def refining (c : Config) : Setting := ⟨.standard, 0, c⟩

theorem service_ruled (r : Refiner) (c : Config) : (ruled r c).service = .standard := by
  simp [ruled, Context.ruled, Setting.service, Context.empty, Service.Pool.add, Service.Pool.update]

theorem stock_ruled {r : Refiner} (restrained : r.Restrained) (c : Config) : (ruled r c).Stock where
  service := service_ruled r c
  opened t ht := RuleBook.refine_eq_self fun e he => restrained.tags e he t ht
  valued p hp := RuleBook.refine_eq_self fun e he => restrained.properties e he p hp

theorem stock_plain (c : Config) : (plain c).Stock := stock_ruled Refiner.restrained_none c

theorem stock_refining (c : Config) : (refining c).Stock := stock_ruled Refiner.restrained_builtin c

/-! ### Refinement -/

/-- Refinement changes nothing but the shapes of tags and whether a document is a singleton. -/
structure Reshaping (g : Setting) : Prop where
  tags : ∀ t, ∃ shape, g.refineTag t = .ok { t with shape }
  documents : ∀ d, ∃ singleton, g.refineDocument d = .ok { d with singleton }

theorem reshaping_plain (c : Config) : (plain c).Reshaping where
  tags t := ⟨t.shape, by cases t; rfl⟩
  documents d := ⟨d.singleton, rfl⟩

theorem reshaping_refining (c : Config) : (refining c).Reshaping where
  tags t := by
    obtain ⟨u, refined, narrowed⟩ := Refiner.refine_tag t
    obtain ⟨shape, rfl⟩ := narrowed.reshaped
    exact ⟨shape, refined⟩
  documents d := ⟨_, Refiner.refine_document d⟩

end Scan.Setting

/-- The standard context narrows documents of one tag, and no others. -/
theorem Scan.singleton_of_scan_refining {c : Config} {text : String} {d : Document}
    (h : (scan (.refining c) text).result = .ok d) : d.singleton = (d.tagCount == 1) := by
  obtain ⟨-, marks, n, d₀, -, -, ended, refined⟩ := (scan_eq_ok (Setting.stock_refining c)).1 h
  obtain ⟨-, -, -, -, generic⟩ := Nest.document?_eq_some.1 ended
  cases (Refiner.refine_document d₀).symm.trans refined
  simp [generic, Document.tagCount]

namespace Context

theorem readText_ruled {r : Refiner} {c : Config} {name text : String} {d : Document} :
    ((ruled r).readText c name text).result = .ok d ↔ (Scan.scan (.ruled r c) text).result = .ok d := by
  have active : (ruled r).reading = .ok 0 := rfl
  simp [readText, active, mapError_eq_ok, Scan.Setting.ruled]

theorem readText_empty {c : Config} {name text : String} {d : Document} :
    (empty.readText c name text).result = .ok d ↔ (Scan.scan (.plain c) text).result = .ok d :=
  readText_ruled

theorem readText_standard {c : Config} {name text : String} {d : Document} :
    (standard.readText c name text).result = .ok d ↔ (Scan.scan (.refining c) text).result = .ok d :=
  readText_ruled

theorem parse_ruled {r : Refiner} {text : String} {d : Document} :
    ((ruled r).parse text).result = .ok d ↔
      text.utf8ByteSize ≤ ({} : Config).maxSize ∧ (Scan.scan (.ruled r {}) text).result = .ok d := by
  have configured : (ruled r).config = .ok {} := rfl
  simp only [parse, configured, Journaled.result_bind, Journaled.result_lift, ok_bind, bind_eq_ok,
    readText_ruled, Config.checkSize, failIf_eq_ok]
  constructor
  · rintro ⟨_, small, h⟩
    exact ⟨Nat.le_of_not_lt (of_decide_eq_false small), h⟩
  · rintro ⟨small, h⟩
    exact ⟨(), decide_eq_false (Nat.not_lt.2 small), h⟩

theorem parse_standard {text : String} {d : Document} :
    (standard.parse text).result = .ok d ↔
      text.utf8ByteSize ≤ ({} : Config).maxSize ∧ (Scan.scan (.refining {}) text).result = .ok d :=
  parse_ruled

end Context

namespace Reader

/-- A reader of a text that is held in memory. -/
def ofText (c : Config) (name text : String) : Reader where
  holder := .memory name text false true 0
  config := c

theorem result_read {r : Reader} (fresh : r.source = none) (c : Context) (s : Storage) :
    (r.read c s).1.result =
      (r.load s false).result >>= fun text => (c.readText r.config r.displayName text).result := by
  simp only [read, fresh, init]
  cases (r.load s false).result with
  | ok text => simp [displayName]
  | error e => simp

/-- The text that a reader reads: the one that it has, or else the one that it loads. -/
def text (r : Reader) (s : Storage) : Except Error String :=
  match r.source with
  | some text => .ok text
  | none => (r.load s false).result

theorem result_read_text (r : Reader) (c : Context) (s : Storage) :
    (r.read c s).1.result =
      r.text s >>= fun text => (c.readText r.config r.displayName text).result := by
  cases source : r.source with
  | some loaded => simp only [read, text, source, ok_bind]
  | none => rw [result_read source, text, source]

theorem load_memory {c : Config} {name text : String} {writable : Bool} {buffer : Nat} {s : Storage} :
    (({ holder := .memory name text writable true buffer, config := c } : Reader).load s false).result =
      (do c.checkSize text.utf8ByteSize; return text) := by
  simp [load, initialized, Holder.memory, failIf]
  rfl

theorem read_memory {c : Config} {name text : String} {writable : Bool} {buffer : Nat} {s : Storage}
    {d : Document} :
    (({ holder := .memory name text writable true buffer, config := c } : Reader).read
        .empty s).1.result = .ok d ↔
      text.utf8ByteSize ≤ c.maxSize ∧ (Scan.scan (.plain c) text).result = .ok d := by
  rw [result_read rfl, load_memory]
  simp only [bind_eq_ok, pure_eq_ok, Context.readText_empty, Config.checkSize, failIf_eq_ok,
    Except.ok.injEq, decide_eq_false_iff_not, Nat.not_lt]
  constructor
  · rintro ⟨_, ⟨_, small, rfl⟩, h⟩
    exact ⟨small, h⟩
  · rintro ⟨small, h⟩
    exact ⟨text, ⟨(), small, rfl⟩, h⟩

end Reader
end TabMarkup
