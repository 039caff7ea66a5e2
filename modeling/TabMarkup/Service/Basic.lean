import TabMarkup.Config
import TabMarkup.Document.Basic

/-!
Services: the factories and callbacks that build a document. A service is used through
its number in a pool, because the same one may be active under several keys, and what
it has adopted stays with it.
-/
namespace TabMarkup

/-- What can be asked of a service: how it is called, whether it can be used, how it is configured,
and for the nodes that it makes and passes on. -/
structure Service.Interface where
  kind : String
  usable : Bool := true
  config : Config := {}
  tag : String → Except Error Tag := Tag.new
  tagCallback : Tag → Except Error Tag := .ok
  property : String → Option String → Except Error Property := Property.new
  propertyCallback : Property → Except Error Property := .ok
  body : Body := .empty
  doctype : String → Doctype := Doctype.mk
  version : String → Version := Version.mk
  document : Body → Doctype → Version → Document := fun entries doctype version =>
    { entries, doctype, version }
  documentCallback : Document → Except Error Document := .ok

structure Service extends Service.Interface where
  /-- The configuration after the service has begun. -/
  onBegin : Config → Config := id
  /-- The configuration after the service was finished. -/
  onFinish : Config → Config := id
  /-- The configuration after taking over from a predecessor, if there is one. -/
  adopt : Option Service.Interface → Config → Config := fun _ own => own

namespace Service

/-- The stock service, which adopts the configuration of the service it replaces. -/
def standard : Service where
  kind := "default"
  adopt predecessor own := predecessor.elim own Interface.config

/-- The stock service with a configuration of its own, which it keeps. -/
def configured (config : Config) : Service where
  kind := "default"
  config := config

/-- Services by number. Numbers that were never given out name the stock service. -/
structure Pool where
  service : ServiceId → Service := fun _ => standard
  next : ServiceId := 0

namespace Pool

def update (p : Pool) (id : ServiceId) (f : Service → Service) : Pool :=
  { p with service := fun i => if i = id then f (p.service i) else p.service i }

/-- Gives a service the next number. -/
def add (p : Pool) (s : Service) : ServiceId × Pool :=
  (p.next, { p.update p.next (fun _ => s) with next := p.next + 1 })

def setUsable (p : Pool) (id : ServiceId) (usable : Bool) : Pool :=
  p.update id fun s => { s with usable }

def begin (p : Pool) (id : ServiceId) : Pool :=
  p.update id fun s => { s with config := s.onBegin s.config }

def finish (p : Pool) (id : ServiceId) : Pool :=
  p.update id fun s => { s with config := s.onFinish s.config }

/-- A service takes over from its predecessor, if there is one. -/
def takeOver (p : Pool) (id : ServiceId) (predecessor : Option ServiceId) : Pool :=
  let found := predecessor.map fun i => (p.service i).toInterface
  p.update id fun s => { s with config := s.adopt found s.config }

/-- A service steps in: its predecessor is finished, it begins, and it takes over. -/
def stepIn (p : Pool) (id : ServiceId) (predecessor : Option ServiceId) : Pool :=
  ((predecessor.elim p p.finish).begin id).takeOver id predecessor

end Pool
end Service
end TabMarkup
