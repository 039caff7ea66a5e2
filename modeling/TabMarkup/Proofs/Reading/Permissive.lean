import TabMarkup.Proofs.Reading.Alongside
import TabMarkup.Proofs.Reading.Limits

/-!
A configuration that allows more. Limits and strictness refuse texts, and have no part in what is made
of those that they let pass: in one context, under any services and rules, a document that is read is
read as the same document where no less is allowed.
-/
namespace TabMarkup

namespace Scan.Setting
variable {g : Setting} {config : Config}

/-- The setting with another configuration. -/
def configured (g : Setting) (config : Config) : Setting := { g with config }

theorem addProperty_configured (within : g.config.Within config) (name : String) (t : Tag)
    (pair : String × String) :
    Leads Eq (addProperty g name t pair).result (addProperty (g.configured config) name t pair).result := by
  simp only [addProperty, Journaled.result_bind, Journaled.result_lift]
  exact (within.checkString pair.2).bind fun _ _ _ => leads_self (fun _ => rfl) _

theorem buildTag_configured (within : g.config.Within config) (head : Head) :
    Leads Eq (buildTag g head).result (buildTag (g.configured config) head).result := by
  simp only [buildTag, Journaled.result_bind, Journaled.result_lift, Journaled.result_foldl]
  refine (leads_self (fun _ => rfl) _).bind fun t _ same => ?_
  subst same
  refine (leads_self (fun _ => rfl) _).bind fun pairs _ same => ?_
  subst same
  refine (within.checkProperties _).bind fun _ _ _ => ?_
  refine Leads.foldlM (fun t _ same pair => ?_) rfl pairs
  subst same
  exact addProperty_configured within head.name t pair

/-- A setting goes along with itself under a configuration that allows more, as far as it makes like
documents of like bodies. -/
theorem Alongside.configured {B : Body → Body → Prop} {D : Document → Document → Prop}
    (within : g.config.Within config) (push : ∀ b c t, B b c → B (b.push t) (c.push t))
    (skip : ∀ b c, B b c → B (if g.config.blankLines = .preserve then b.pushBlank else b)
      (if config.blankLines = .preserve then c.pushBlank else c))
    (assemble : ∀ b c doctype version, B b c →
      Leads D (g.assemble b doctype version) (g.assemble c doctype version)) :
    g.Alongside ⟨Eq, Eq, B, D⟩ (g.configured config) where
  doctype := rfl
  version := rfl
  knows := rfl
  config := within
  face := by rintro t _ rfl; exact ⟨rfl, rfl⟩
  openTag _ head _ := (buildTag_configured within head).bind fun t _ same =>
    same ▸ leads_self (fun _ => rfl) _
  voidTag _ head _ := (buildTag_configured within head).bind fun t _ same =>
    same ▸ leads_self (fun _ => rfl) _
  grow := by rintro t _ a _ rfl rfl; exact leads_self (fun _ => rfl) _
  line := by rintro t _ rfl line; exact leads_self (fun _ => rfl) _
  close := by rintro t _ rfl; exact leads_self (fun _ => rfl) _
  push := by rintro b c t _ like rfl; exact push b c t like
  skip := skip
  assemble := assemble

theorem alongside_configured (within : g.config.Within config)
    (blanks : config.blankLines = g.config.blankLines) :
    g.Alongside ⟨Eq, Eq, Eq, Eq⟩ (g.configured config) := by
  refine Alongside.configured within ?_ ?_ ?_
  · rintro b _ t rfl
    rfl
  · rintro b _ rfl
    rw [blanks]
  · rintro b _ doctype version rfl
    exact leads_self (fun _ => rfl) _

end Scan.Setting

namespace Context
variable {c : Context} {a b : Config}

/-- What is scanned alike is read alike. -/
theorem readText_leads {R : Document → Document → Prop} {name text text' : String}
    (scanned : ∀ id, c.reading = .ok id →
      Leads R (Scan.scan ⟨c, id, a⟩ text).result (Scan.scan ⟨c, id, b⟩ text').result) :
    Leads R (c.readText a name text).result (c.readText b name text').result := by
  simp only [readText, Journaled.result_bind, Journaled.result_lift, Journaled.result_mapError,
    Journaled.result_noteError]
  cases reading : c.reading with
  | error e => simp
  | ok id => exact (scanned id reading).mapError

theorem readText_within (within : a.Within b) (blanks : b.blankLines = a.blankLines)
    (name text : String) :
    Leads Eq (c.readText a name text).result (c.readText b name text).result := by
  refine readText_leads fun id _ => ?_
  exact (Scan.Setting.alongside_configured (g := ⟨c, id, a⟩) within blanks).scan rfl text

/-- The context whose reading service has another configuration. -/
def configured (c : Context) (config : Config) : Context :=
  match c.reading with
  | .ok id => { c with pool := c.pool.update id fun s => { s with config } }
  | .error _ => c

section
variable {id : ServiceId} (reading : c.reading = .ok id)
include reading

theorem configured_of_reading : c.configured a =
    { c with pool := c.pool.update id fun s => { s with config := a } } := by
  rw [configured, reading]

theorem reading_configured : (c.configured a).reading = .ok id := by
  rw [configured_of_reading reading]
  exact reading

theorem config_configured : (c.configured a).config = .ok a := by
  have known : ((c.configured a).pool.service id).config = a := by
    rw [configured_of_reading reading]
    simp [Service.Pool.update]
  rw [config, reading_configured reading, ok_bind, known]
  rfl

-- A scan asks its service for nodes, and not how it is configured.
theorem scan_configured (text : String) :
    Scan.scan ⟨c.configured a, id, b⟩ text = Scan.scan ⟨c, id, b⟩ text := by
  rw [configured_of_reading reading, Scan.Setting.scan_alone, Scan.Setting.scan_alone ⟨c, id, b⟩]
  simp only [Scan.Setting.alone, Scan.Setting.service, Service.Pool.update, if_true]
  rfl

theorem parse_configured (text : String) :
    ((c.configured a).parse text).result =
      a.checkSize text.utf8ByteSize >>= fun _ => (c.readText a "memory" text).result := by
  simp only [parse, readText, config_configured reading, reading_configured reading, reading,
    scan_configured reading, Journaled.result_bind, Journaled.result_lift, ok_bind]

end

theorem parse_within (within : a.Within b) (blanks : b.blankLines = a.blankLines) (text : String) :
    Leads Eq ((c.configured a).parse text).result ((c.configured b).parse text).result := by
  cases reading : c.reading with
  | ok id =>
    rw [parse_configured reading, parse_configured reading]
    exact (within.checkSize _).bind fun _ _ _ => readText_within within blanks "memory" text
  | error e => simp [configured, reading, parse, config]

end Context

namespace Reader
variable {r : Reader} {c : Context} {s : Storage} {a b : Config}

/-- The reader with another configuration. -/
def configured (r : Reader) (config : Config) : Reader := { r with config }

theorem load_within (within : a.Within b) (force : Bool) :
    Leads Eq ((r.configured a).load s force).result ((r.configured b).load s force).result := by
  simp only [load, Journaled.result_bind, Journaled.result_lift, Journaled.result_noteIf, ok_bind]
  refine (leads_self (fun _ => rfl) _).bind fun _ _ _ => ?_
  refine (leads_self (fun _ => rfl) _).bind fun _ _ _ => ?_
  refine (leads_self (fun _ => rfl) _).bind fun stream _ same => ?_
  subst same
  refine (leads_self (fun _ => rfl) _).bind fun text _ same => ?_
  subst same
  exact (within.checkSize _).bind fun _ _ _ => leads_self (fun _ => rfl) _

theorem text_within (within : a.Within b) :
    Leads Eq ((r.configured a).text s) ((r.configured b).text s) := by
  have again (config : Config) : (r.configured config).source = r.source := rfl
  unfold text
  rw [again, again]
  split
  · exact leads_self (fun _ => rfl) _
  · exact load_within within false

theorem read_configured (within : a.Within b) (blanks : b.blankLines = a.blankLines) :
    Leads Eq ((r.configured a).read c s).1.result ((r.configured b).read c s).1.result := by
  rw [result_read_text, result_read_text]
  refine (text_within within).bind fun text _ same => ?_
  subst same
  exact Context.readText_within within blanks r.displayName text

end Reader

namespace Context

/-- Where more is allowed, what was read is read again as the same document: by a reader of any
holder, loaded or not, and as a text under the configuration of the service that reads. -/
theorem read_permissive (c : Context) {a b : Config} (within : a.Within b)
    (blanks : b.blankLines = a.blankLines) :
    (∀ (r : Reader) (s : Storage) (d : Document), ((r.configured a).read c s).1.result = .ok d →
      ((r.configured b).read c s).1.result = .ok d) ∧
    ∀ (text : String) (d : Document), ((c.configured a).parse text).result = .ok d →
      ((c.configured b).parse text).result = .ok d := by
  constructor
  · intro r s d accepted
    obtain ⟨_, accepted', rfl⟩ := Reader.read_configured within blanks d accepted
    exact accepted'
  · intro text d accepted
    obtain ⟨_, accepted', rfl⟩ := parse_within within blanks text d accepted
    exact accepted'

/-- As little as the text below needs, without legacy declarations and unknown stylesheets. -/
def frugal : Config where
  maxDepth := 1
  maxSize := 64
  maxStringLength := 3
  maxProperties := 1
  legacyDeclarations := false
  strictDoctypes := true

def frugalText : String :=
  "<!DOCTYPE skd default>\n<!SKD version=\"0.2\">\n<a k=\"v\">\n\tone\n</a>\n"

theorem read_permissive_frugal :
    ∃ d, ((Reader.ofText frugal "list" frugalText).read empty {}).1.result = .ok d ∧
      (((Reader.ofText frugal "list" frugalText).configured {}).read empty {}).1.result = .ok d ∧
      ((empty.configured frugal).parse frugalText).result = .ok d ∧
      ((empty.configured {}).parse frugalText).result = .ok d := by
  have within : frugal.Within {} := ⟨by decide, by decide, by decide, by decide, nofun, nofun⟩
  have small : frugalText.utf8ByteSize ≤ frugal.maxSize := by decide
  obtain ⟨d, scanned⟩ : ∃ d, (Scan.scan (.plain frugal) frugalText).result = .ok d :=
    ⟨_, (Scan.scan_eq_ok (Scan.Setting.stock_plain _)).2 ⟨by decide,
      [(0, .declaration (.doctype "default")), (0, .declaration (.version "0.2")),
        (0, .opening "a" [("k", "v")]), (1, .content "one"), (0, .closing "a")],
      _, _, rfl, rfl, rfl, rfl⟩⟩
  have read : ((Reader.ofText frugal "list" frugalText).read empty {}).1.result = .ok d :=
    Reader.read_memory.2 ⟨small, scanned⟩
  have parsed : ((empty.configured frugal).parse frugalText).result = .ok d := by
    have reading : empty.reading = .ok 0 := rfl
    rw [parse_configured reading, bind_eq_ok]
    exact ⟨(), failIf_eq_ok.2 (decide_eq_false (Nat.not_lt.2 small)), readText_empty.2 scanned⟩
  have more := read_permissive empty within rfl
  exact ⟨d, read, more.1 (Reader.ofText frugal "list" frugalText) {} _ read, parsed,
    more.2 frugalText _ parsed⟩

end Context
end TabMarkup
