import TabMarkup.Proofs.Service.Rollback
import TabMarkup.Proofs.Writing.Accepted

/-!
The limits of a reader. Its source was measured when it was loaded, and what is read from it is
within all the other limits: depths, lengths and the number of properties.
-/
namespace TabMarkup

/-! ### Contexts that read as the stock ones do -/

/-- A service that makes nodes as the stock service does; what it is called, when it can be used and
how it is configured is its own. -/
def Service.Plain (s : Service) : Prop :=
  ∃ kind usable config onBegin onFinish adopt,
    s = { kind, usable, config, onBegin, onFinish, adopt }

theorem Service.plain_standard : Service.standard.Plain := ⟨_, _, _, _, _, _, rfl⟩

namespace Scan.Setting

/-- The setting with the stock service in the place of its own. -/
def restocked (g : Setting) : Setting :=
  { g with context := { g.context with pool := {}, services := .empty } }

theorem scan_restocked {g : Setting} (plain : g.service.Plain) (text : String) :
    scan g text = scan g.restocked text := by
  obtain ⟨kind, usable, config, onBegin, onFinish, adopt, same⟩ := plain
  rw [scan_alone, alone, same]
  rfl

variable {g : Setting}

theorem stock_restocked (rules : g.context.refiner = {} ∨ g.context.refiner = .builtin) :
    g.restocked.Stock := by
  have restrained : g.context.refiner.Restrained := by
    rcases rules with none | builtin
    · rw [none]
      exact Refiner.restrained_none
    · rw [builtin]
      exact Refiner.restrained_builtin
  exact ⟨rfl, fun t unclosed => RuleBook.refine_eq_self fun e he => restrained.tags e he t unclosed,
    fun p valued => RuleBook.refine_eq_self fun e he => restrained.properties e he p valued⟩

theorem reshaping_restocked (rules : g.context.refiner = {} ∨ g.context.refiner = .builtin) :
    g.restocked.Reshaping := by
  have same (g' : Setting) (h : g.context.refiner = g'.context.refiner) (reshaping : g'.Reshaping) :
      g.restocked.Reshaping := by
    refine ⟨fun t => ?_, fun d => ?_⟩
    · rw [refineTag, show g.restocked.context.refiner = _ from h]
      exact reshaping.tags t
    · rw [refineDocument, show g.restocked.context.refiner = _ from h]
      exact reshaping.documents d
  rcases rules with none | builtin
  · exact same (plain g.config) none (reshaping_plain g.config)
  · exact same (refining g.config) builtin (reshaping_refining g.config)

end Scan.Setting

/-- A context in which a service of that kind reads, with no rules or with the built-in ones.
Stylesheets may be known or not. -/
structure Context.Plain (c : Context) : Prop where
  reading : ∃ id, c.reading = .ok id ∧ (c.pool.service id).Plain
  rules : c.refiner = {} ∨ c.refiner = .builtin

namespace Context

theorem plain_empty : Context.empty.Plain := ⟨⟨0, rfl, Service.plain_standard⟩, .inl rfl⟩

theorem plain_standard : Context.standard.Plain := ⟨⟨0, rfl, Service.plain_standard⟩, .inr rfl⟩

/-- The setting that a context reads in, but for what its service is called and configured. -/
def setting (c : Context) (config : Config) : Scan.Setting :=
  Scan.Setting.restocked ⟨c, c.reading.toOption.getD 0, config⟩

namespace Plain
variable {c : Context}

theorem stock_setting (plain : c.Plain) (config : Config) : (c.setting config).Stock :=
  Scan.Setting.stock_restocked plain.rules

theorem reshaping_setting (plain : c.Plain) (config : Config) : (c.setting config).Reshaping :=
  Scan.Setting.reshaping_restocked plain.rules

theorem result_readText (plain : c.Plain) (config : Config) (name text : String) :
    (c.readText config name text).result =
      (Scan.scan (c.setting config) text).result.mapError (invalid name) := by
  obtain ⟨id, reading, service⟩ := plain.reading
  have scanned := Scan.Setting.scan_restocked (g := ⟨c, id, config⟩) service text
  have same : c.setting config = Scan.Setting.restocked ⟨c, id, config⟩ := by
    rw [setting, reading]
    rfl
  simp [readText, reading, same, scanned]

end Plain
end Context

/-! ### Readers -/

namespace Reader
variable {r : Reader} {c : Context} {s : Storage}

/-- Readers as they come about: new, and then after loading and after reading. -/
inductive Started : Reader → Prop
  | new (holder : Holder) (config : Config) : Started { holder, config }
  | init {r : Reader} (s : Storage) (force : Bool) : Started r → Started (r.init s force).2
  | read {r : Reader} (c : Context) (s : Storage) : Started r → Started (r.read c s).2

theorem size_of_load {force : Bool} {text : String} (h : (r.load s force).result = .ok text) :
    text.utf8ByteSize ≤ r.config.maxSize := by
  simp only [load, Journaled.result_bind, Journaled.result_lift, Journaled.result_noteIf,
    Journaled.result_pure, bind_eq_ok, ok_bind, Config.checkSize, failIf_eq_ok, Except.ok.injEq] at h
  obtain ⟨-, -, -, -, stream, -, loaded, -, -, small, rfl⟩ := h
  exact Nat.le_of_not_lt (of_decide_eq_false small)

/-- Loading keeps what a reader is made of, and a source that it finds is the one that was loaded. -/
theorem init_cases (r : Reader) (s : Storage) (force : Bool) :
    (r.init s force).2 = r ∨
      ∃ text, (r.load s force).result = .ok text ∧ (r.init s force).2 = { r with source := some text } := by
  cases loaded : (r.load s force).result with
  | ok text => exact .inr ⟨text, rfl, by simp [init, loaded]⟩
  | error e => exact .inl (by simp [init, loaded])

/-- A source that was loaded is within the limit of the reader. -/
def Measured (r : Reader) : Prop := ∀ text ∈ r.source, text.utf8ByteSize ≤ r.config.maxSize

theorem Measured.init (h : r.Measured) (s : Storage) (force : Bool) :
    (r.init s force).2.Measured := by
  rcases init_cases r s force with same | ⟨text, loaded, same⟩
  · rw [same]
    exact h
  · rw [same]
    intro text' source
    cases source
    exact size_of_load (r := r) loaded

theorem Measured.read (h : r.Measured) (c : Context) (s : Storage) : (r.read c s).2.Measured := by
  unfold Reader.read
  split
  · exact h
  · exact h.init s false

theorem Started.measured (h : r.Started) : r.Measured := by
  induction h with
  | new holder config => exact fun text none => by cases none
  | init s force _ ih => exact ih.init s force
  | read c s _ ih => exact ih.read c s

theorem read_eq_ok {d : Document} (h : (r.read c s).1.result = .ok d) :
    (r.read c s).2.config = r.config ∧ ∃ text, (r.read c s).2.source = some text ∧
      (c.readText r.config r.displayName text).result = .ok d := by
  cases source : r.source with
  | some text =>
    have same : r.read c s = (c.readText r.config r.displayName text, r) := by simp [read, source]
    rw [same] at h ⊢
    exact ⟨rfl, text, source, h⟩
  | none =>
    rw [result_read source, bind_eq_ok] at h
    obtain ⟨text, loaded, accepted⟩ := h
    have same : (r.read c s).2 = { r with source := some text } := by simp [read, source, init, loaded]
    rw [same]
    exact ⟨rfl, text, rfl, accepted⟩

/-- What a reader has read is within its limits: its source was no larger than allowed, and every tag
stands and holds no more than allowed. -/
theorem read_within {d : Document} (started : r.Started) (plain : c.Plain)
    (read : (r.read c s).1.result = .ok d) :
    (∃ text, (r.read c s).2.source = some text ∧ text.utf8ByteSize ≤ r.config.maxSize) ∧
      ∀ t ∈ d.entries.tags, t.Everywhere r.config.Holds 0 := by
  obtain ⟨kept, text, source, accepted⟩ := read_eq_ok read
  have measured := started.measured.read c s text source
  rw [kept] at measured
  rw [plain.result_readText, mapError_eq_ok] at accepted
  have sound := Document.sound_of_scan (plain.stock_setting _) (plain.reshaping_setting _) accepted
  exact ⟨⟨text, source, measured⟩, sound.2.1⟩

/-- A new reader that allows no less than it is given to read. -/
def tight : Reader where
  holder := .memory "notes"
    "<!DOCTYPE skd notes>\n<!SKD version=\"0.2\">\n<a k=\"v\">\n\tone\n</a>\n" false true 0
  config := { maxDepth := 1, maxSize := 62, maxStringLength := 3, maxProperties := 1 }

theorem read_within_tight :
    ∃ d, (tight.read .empty {}).1.result = .ok d ∧
      (∃ text, (tight.read .empty {}).2.source = some text ∧ text.utf8ByteSize ≤ 62) ∧
      ∀ t ∈ d.entries.tags, t.Everywhere tight.config.Holds 0 := by
  have scanned : (Scan.scan (.plain tight.config)
      "<!DOCTYPE skd notes>\n<!SKD version=\"0.2\">\n<a k=\"v\">\n\tone\n</a>\n").result =
        .ok {
          entries := .ofTags [{
            name := "a"
            content := some "one"
            closed := true
            properties := [{ name := "k", value := some "v" }] }]
          doctype := ⟨"notes"⟩
          version := ⟨"0.2"⟩ } :=
    (Scan.scan_eq_ok (Scan.Setting.stock_plain _)).2 ⟨by decide,
      [(0, .declaration (.doctype "notes")), (0, .declaration (.version "0.2")),
        (0, .opening "a" [("k", "v")]), (1, .content "one"), (0, .closing "a")],
      _, _, rfl, rfl, rfl, rfl⟩
  have accepted : (tight.read .empty {}).1.result = .ok _ := read_memory.2 ⟨by decide, scanned⟩
  exact ⟨_, accepted, read_within (r := tight) (.new _ _) Context.plain_empty accepted⟩

end Reader
end TabMarkup
