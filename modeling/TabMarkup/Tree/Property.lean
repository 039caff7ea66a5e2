import TabMarkup.Error

/-! Properties: a name with an optional value. A marker is a property without a value
that is meant to have none. -/
namespace TabMarkup

/-- What refinement has made of a node; what a variant promises stands with its node. -/
inductive Variant where
  | generic
  | list
  | pair
  | scalar
  | marker
  | singleton
  deriving DecidableEq, Repr

def Variant.text : Variant → String
  | generic => "generic"
  | list => "list"
  | pair => "pair"
  | scalar => "scalar"
  | marker => "marker"
  | singleton => "singleton"

structure Property where
  name : String
  value : Option String := none
  marker : Bool := false
  deriving DecidableEq, Repr

namespace Property

def new (name : String) (value : Option String) : Except Error Property :=
  if name = "" then fail (.node (.emptyName "property")) else .ok { name, value }

def variant (p : Property) : Variant := if p.marker then .marker else .generic

/-- A marker and a generic property without a value are the same. -/
def same (p q : Property) : Bool := p.name == q.name && p.value == q.value

def refuseMarker (p : Property) (operation : String) : Except Error Unit :=
  failIf p.marker (.node (.unsupported (operation ++ " on marker property '" ++ p.name ++ "'")))

def setValue (p : Property) (value : String) : Except Error Property := do
  p.refuseMarker "set_value"
  return { p with value := some value }

/-- Answers the old value. -/
def removeValue (p : Property) : Except Error (Option String × Property) := do
  p.refuseMarker "remove_value"
  return (p.value, { p with value := none })

/-- Narrows a property without a value to a marker. -/
def narrow (p : Property) : Except Error Property :=
  if p.value.isSome then
    fail (.node (.unsupported
      ("property '" ++ p.name ++ "' has a value and cannot become a marker")))
  else .ok { p with marker := true }

def widen (p : Property) : Property := { p with marker := false }

def render (p : Property) : String := p.name ++ "=\"" ++ p.value.getD "" ++ "\""

inductive Operation where
  | setValue (value : String)
  | removeValue
  | narrow
  | widen
  deriving DecidableEq, Repr

/-- The answer of an operation: the old value where there is one to answer. -/
def apply (p : Property) : Operation → Except Error (Option String × Property)
  | .setValue value => (p.setValue value).map (none, ·)
  | .removeValue => p.removeValue
  | .narrow => p.narrow.map (none, ·)
  | .widen => .ok (none, p.widen)

/-- The property as an operation leaves it; a refused operation leaves it alone. -/
def perform (p : Property) (op : Operation) : Except Error (Option String) × Property :=
  match p.apply op with
  | .ok (answer, q) => (.ok answer, q)
  | .error e => (.error e, p)

end Property
end TabMarkup
