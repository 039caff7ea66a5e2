import TabMarkup.Tree.Property

/-!
Tags: the nodes of a document's tree. Properties and children keep the order in which
they came. Content and children are frozen once a tag is closed, and a void tag has
neither. The shape says what refinement has made of the tag.
-/
namespace TabMarkup

inductive Shape where
  | generic
  | list (item : String)
  | pair
  | scalar
  deriving DecidableEq, Repr

def Shape.variant : Shape → Variant
  | generic => .generic
  | list _ => .list
  | pair => .pair
  | scalar => .scalar

structure Tag where
  name : String
  content : Option String := none
  void : Bool := false
  closed : Bool := false
  children : List Tag := []
  properties : List Property := []
  shape : Shape := .generic

namespace Tag

def new (name : String) : Except Error Tag :=
  if name = "" then fail (.node (.emptyName "tag")) else .ok { name }

def variant (t : Tag) : Variant := t.shape.variant

def unsupported {α : Type} (t : Tag) (what : String) : Except Error α :=
  fail (.node (.unsupported (what ++ " ('" ++ t.name ++ "')")))

def refuseClosed (t : Tag) : Except Error Unit :=
  failIf t.closed (.node (.tagClosed t.name))

def refuseFrozenBody (t : Tag) : Except Error Unit :=
  if t.void then fail (.node (.voidTag t.name)) else t.refuseClosed

/-- The properties of a pair or a scalar are part of its shape. -/
def refuseShapedProperties (t : Tag) (operation : String) : Except Error Unit :=
  match t.shape with
  | .pair | .scalar => t.unsupported (operation ++ " on a " ++ t.variant.text ++ " tag")
  | .generic | .list _ => .ok ()

/-! ### Properties -/

/-- The first property of a name. -/
def property? (t : Tag) (name : String) : Option Property := t.properties.find? (·.name == name)

def hasProperty (t : Tag) (p : Property) : Bool := t.properties.any (·.same p)

/-- Answers whether the property was added; one that is already there is not. -/
def addProperty (t : Tag) (p : Property) : Except Error (Bool × Tag) := do
  t.refuseShapedProperties "add_property"
  if t.hasProperty p then return (false, t)
  else return (true, { t with properties := t.properties ++ [p] })

/-- Answers whether there was such a property. -/
def removeProperty (t : Tag) (p : Property) : Except Error (Bool × Tag) := do
  t.refuseShapedProperties "remove_property"
  if t.hasProperty p then return (true, { t with properties := t.properties.eraseP (·.same p) })
  else return (false, t)

/-! ### Content and children -/

def childrenNamed (t : Tag) (name : String) : List Tag := t.children.filter (·.name == name)

/-- Content with a line after what is there. -/
def joinLine : Option String → String → String
  | some content, line => content ++ "\n" ++ line
  | none, line => line

/-- Appends a line to the content. -/
def appendContent (t : Tag) (line : String) : Except Error Tag := do
  t.refuseFrozenBody
  match t.shape with
  | .list _ => t.unsupported "content on a list tag"
  | _ => return { t with content := some (joinLine t.content line) }

/-- Answers the old content. -/
def removeContent (t : Tag) : Except Error (Option String × Tag) := do
  t.refuseClosed
  return (t.content, { t with content := none })

/-- A list takes children of its item name only. -/
def addChild (t child : Tag) : Except Error Tag := do
  t.refuseFrozenBody
  match t.shape with
  | .list item =>
    if child.name = item then return { t with children := t.children ++ [child] }
    else fail (.node (.listChildMismatch item child.name))
  | _ => return { t with children := t.children ++ [child] }

/-- Answers the child that was removed. -/
def removeChild (t : Tag) (index : Nat) : Except Error (Option Tag × Tag) := do
  t.refuseClosed
  match t.children[index]? with
  | none => return (none, t)
  | some child => return (some child, { t with children := t.children.eraseIdx index })

def setVoid (t : Tag) (void : Bool) : Except Error Tag := do
  t.refuseClosed
  failIf (void && (t.content.isSome || !t.children.isEmpty)) (.node (.notEmpty t.name))
  return { t with void }

def close (t : Tag) : Tag := { t with closed := true }

/-! ### Shapes -/

/-- The name that the children of a list share. -/
def item? (t : Tag) : Option String :=
  match t.shape with
  | .list item => some item
  | _ => none

def value? (t : Tag) : Option String :=
  match t.shape with
  | .scalar => t.properties.head?.bind (·.value)
  | _ => none

/-- The value of the property at a place of a pair. -/
def side? (t : Tag) (index : Nat) : Option String :=
  match t.shape with
  | .pair => t.properties[index]?.bind (·.value)
  | _ => none

def left? (t : Tag) : Option String := t.side? 0
def right? (t : Tag) : Option String := t.side? 1
def sides? (t : Tag) : Option (String × String) := do return (← t.left?, ← t.right?)

def setPropertyAt (t : Tag) (index : Nat) (value : String) : Except Error Tag :=
  match t.properties[index]? with
  | none => fail (.node (.unsupported ("missing property on tag '" ++ t.name ++ "'")))
  | some p => do return { t with properties := t.properties.set index (← p.setValue value) }

def setValue (t : Tag) (value : String) : Except Error Tag :=
  match t.shape with
  | .scalar => t.setPropertyAt 0 value
  | _ => t.unsupported "set_value on a non-scalar tag"

def setSide (t : Tag) (index : Nat) (value : String) : Except Error Tag :=
  match t.shape with
  | .pair => t.setPropertyAt index value
  | _ => t.unsupported "pair accessor on a non-pair tag"

def setLeft (t : Tag) (value : String) : Except Error Tag := t.setSide 0 value
def setRight (t : Tag) (value : String) : Except Error Tag := t.setSide 1 value

/-- Exactly a left and a right property, in this order and with values. -/
def hasPairProperties (t : Tag) : Bool :=
  match t.properties with
  | [l, r] => l.name == "left" && r.name == "right" && l.value.isSome && r.value.isSome
  | _ => false

/-- Exactly one property, the value. -/
def hasScalarProperties (t : Tag) : Bool :=
  match t.properties with
  | [p] => p.name == "value"
  | _ => false

/-- Narrows a tag whose children share one name. -/
def narrowToList (t : Tag) : Except Error Tag :=
  if t.void || t.content.isSome then t.unsupported "list from a void tag or a tag with content"
  else match t.children with
    | [] => t.unsupported "list without children"
    | first :: rest =>
      if rest.all (·.name == first.name) then .ok { t with shape := .list first.name }
      else t.unsupported "list with heterogeneous children"

def narrowToPair (t : Tag) : Except Error Tag :=
  if t.void && t.hasPairProperties then .ok { t with shape := .pair }
  else t.unsupported "pair without exactly 'left' and 'right' values"

def narrowToScalar (t : Tag) : Except Error Tag :=
  if t.void && t.hasScalarProperties then .ok { t with shape := .scalar }
  else t.unsupported "scalar without exactly one 'value' property"

def widen (t : Tag) : Tag := { t with shape := .generic }

/-- A new generic tag of another name that is built up to be otherwise the same. -/
def rename (t : Tag) (newName : String) : Except Error Tag := do
  let u ← new newName
  let u ← t.properties.foldlM (fun u p => (u.addProperty p).map Prod.snd) u
  let u ← match t.content with
    | some content => u.appendContent content
    | none => .ok u
  let u ← t.children.foldlM addChild u
  let u ← if t.void then u.setVoid true else .ok u
  return { u with closed := t.closed }

end Tag
end TabMarkup
