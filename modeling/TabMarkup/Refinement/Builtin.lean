import TabMarkup.Text.Blank
import TabMarkup.Refinement.RuleBook

/-!
The built-in rules. They take generic nodes only, and tags only once they are closed, so
what they have made they leave alone.
-/
namespace TabMarkup.Refiner

/-- Plurals in `s`, `es`, and `ies` for `y`. -/
def isPluralOf (plural singular : List Char) : Bool :=
  let stem := Text.stripEnd? ['s'] plural
  stem == some singular || stem.bind (Text.stripEnd? ['e']) == some singular ||
    match Text.stripEnd? ['i', 'e', 's'] plural, Text.stripEnd? ['y'] singular with
    | some p, some s => p == s
    | _, _ => false

/-- A closed container whose children share one name. A lone child makes a list only
when the tag's own name is its plural. -/
def isList (t : Tag) : Bool :=
  t.closed && !t.void && t.content.isNone && t.variant == .generic &&
    match t.children with
    | [] => false
    | [only] => isPluralOf t.name.toList only.name.toList
    | first :: rest => rest.all (·.name == first.name)

def isPair (t : Tag) : Bool :=
  t.closed && t.void && t.variant == .generic && t.hasPairProperties

def isScalar (t : Tag) : Bool :=
  t.closed && t.void && t.variant == .generic && t.hasScalarProperties

def isMarker (p : Property) : Bool := p.value.isNone && !p.marker

def isSingleton (d : Document) : Bool := d.variant == .generic && d.tagCount == 1

/-- Registers the built-in rules. -/
def install (r : Refiner) : Refiner where
  tags :=
    let tags := (r.tags.register "list" ⟨isList, Tag.narrowToList⟩).2
    let tags := (tags.register "pair" ⟨isPair, Tag.narrowToPair⟩).2
    (tags.register "scalar" ⟨isScalar, Tag.narrowToScalar⟩).2
  properties := (r.properties.register "marker" ⟨isMarker, Property.narrow⟩).2
  documents := (r.documents.register "singleton" ⟨isSingleton, Document.narrow⟩).2

def builtin : Refiner := install {}

end TabMarkup.Refiner
