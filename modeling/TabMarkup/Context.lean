import TabMarkup.Service.Registry
import TabMarkup.Refinement.Builtin

/-!
Contexts: the services, doctype providers and rules that readers share, and the
extensions that install themselves into a context.
-/
namespace TabMarkup

structure Context where
  pool : Service.Pool := {}
  services : Service.Registry := .empty
  doctypes : Doctype.Registry := .seeded
  available : Doctype.Availability := fun _ => true
  refiner : Refiner := {}

namespace Context

/-- The stock service and the default provider, without rules. -/
def empty : Context where
  pool := (Service.Pool.add {} .standard).2
  services := ⟨Table.insert {} Service.readingKey 0⟩

/-- The stock service, the default provider and the built-in rules. -/
def standard : Context := { empty with refiner := .builtin }

/-- The active service that reads documents. -/
def reading (c : Context) : Except Error ServiceId := c.services.get Service.readingKey

def config (c : Context) : Except Error Config := do return (c.pool.service (← c.reading)).config

def addService (c : Context) (s : Service) : ServiceId × Context :=
  let (id, pool) := c.pool.add s
  (id, { c with pool })

def provideAs (c : Context) (key : String) (id : ServiceId) : Journaled Service.Provision × Context :=
  let p := c.services.provide c.pool key id
  (p.outcome, { c with services := p.registry, pool := p.pool })

/-- Swaps the service that reads documents. -/
def provide (c : Context) (id : ServiceId) : Journaled Service.Provision × Context :=
  c.provideAs Service.readingKey id

def registerProvider (c : Context) (p : Doctype.Provider) : Journaled Bool × Context :=
  let (answer, doctypes) := c.doctypes.register c.available p
  (answer, { c with doctypes })

def setAvailable (c : Context) (id : Doctype.ProviderId) (available : Bool) : Context :=
  { c with available := fun i => if i = id then available else c.available i }

end Context

structure Extension where
  id : String
  name : String
  version : String
  install : Context → Journaled Unit × Context

namespace Extension

def refinements : Extension where
  id := "refinements"
  name := "Built-in refinement rules"
  version := "0.1"
  install c := (pure (), { c with refiner := c.refiner.install })

/-- Replaces the active service by one that keeps its configuration, and blank lines. -/
def layout : Extension where
  id := "layout"
  name := "Blank line preserving layout"
  version := "0.1"
  install c :=
    match c.config with
    | .error e => (⟨.error e, #[]⟩, c)
    | .ok config =>
      let (id, c) := c.addService (.configured config.preservingBlankLines)
      let (provided, c) := c.provide id
      ((fun _ => ()) <$> provided, c)

def all : List Extension := [refinements, layout]

def lookup (id version : String) : Option Extension :=
  all.find? fun e => e.id == id && e.version == version

end Extension

def Context.load (c : Context) (id version : String) : Journaled Unit × Context :=
  match Extension.lookup id version with
  | some e => e.install c
  | none => (monadLift (fail (α := Unit) (.service (.unknownExtension (id ++ "@" ++ version)))), c)

end TabMarkup
