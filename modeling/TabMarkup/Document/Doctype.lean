import TabMarkup.Document.Body
import TabMarkup.Journal

/-!
Doctypes, and the registry of providers that say which bodies a stylesheet admits. A
stylesheet is a token that is compared and never fetched. Whether a provider can be used
changes over time and is asked for anew each time.
-/
namespace TabMarkup

structure Doctype where
  stylesheet : String
  deriving DecidableEq, Repr

namespace Doctype

def render (d : Doctype) : String := "<!DOCTYPE skd " ++ d.stylesheet ++ ">"

abbrev ProviderId := Nat

/-- Which providers can be used at the moment. -/
abbrev Availability := ProviderId → Bool

structure Provider where
  id : ProviderId
  name : String
  stylesheet : Option String
  accepts : Body → Bool

/-- The provider for the stylesheet of its own name, which accepts every body. -/
def Provider.default : Provider := ⟨0, "default", some "default", fun _ => true⟩

/-- Why a provider cannot be registered now. -/
def Provider.refusal? (p : Provider) (available : Availability) : Option String :=
  if p.name = "" then some "Refusing doctype provider without a name"
  else if !available p.id then some ("Refusing unusable doctype provider " ++ p.name)
  else if p.stylesheet.getD "" = "" then
    some ("Refusing doctype provider " ++ p.name ++ " without stylesheet")
  else none

structure Registry where
  providers : List Provider := []

namespace Registry

def empty : Registry := {}
def seeded : Registry := ⟨[Provider.default]⟩

/-- Answers whether the provider was registered; a refusal is a warning. -/
def register (r : Registry) (available : Availability) (p : Provider) : Journaled Bool × Registry :=
  match p.refusal? available with
  | some reason => (⟨.ok false, #[.warning reason]⟩, r)
  | none => (⟨.ok true, #[]⟩, ⟨r.providers ++ [p]⟩)

/-- The first provider with the declared stylesheet that can be used. -/
def resolve (r : Registry) (available : Availability) (d : Doctype) : Option Provider :=
  r.providers.find? fun p => p.stylesheet == some d.stylesheet && available p.id

/-- Whether some provider can be used for the doctype. -/
def knows (r : Registry) (available : Availability) (d : Doctype) : Bool :=
  (r.resolve available d).isSome

end Registry
end Doctype

namespace Body

def canApply (b : Body) (d : Doctype) (r : Doctype.Registry) (available : Doctype.Availability) :
    Bool :=
  match r.resolve available d with
  | some p => p.accepts b
  | none => false

/-- Like `canApply`, but says why a doctype does not fit. -/
def apply (b : Body) (d : Doctype) (r : Doctype.Registry) (available : Doctype.Availability) :
    Except Error Unit :=
  match r.resolve available d with
  | none =>
    .error ((Error.ofFault (.node (.bodyRejected d.stylesheet))).withContext "no usable provider")
  | some p => if p.accepts b then .ok () else fail (.node (.bodyRejected p.name))

end Body
end TabMarkup
