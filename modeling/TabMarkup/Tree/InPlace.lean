import TabMarkup.Tree.Editing

/-!
Operations in place: the guards and the writes of an operation, one after the other, on a tag that
keeps what has been written when a later guard refuses.
-/
namespace TabMarkup.Tag

/-- Work on a tag. It can end in an error, and then the tag is as far as the work has come. -/
abbrev Work := ExceptT Error (StateM Tag)

namespace Work

def check (guard : Tag → Except Error Unit) : Work Unit := fun t => (guard t, t)

def write (f : Tag → Tag) : Work Unit := fun t => (.ok (), f t)

def read {α : Type} (f : Tag → α) : Work α := fun t => (.ok (f t), t)

def refuse {α : Type} (what : String) : Work α := fun t => (t.unsupported what, t)

/-- Writes the value of the property at a place. -/
def writeAt (index : Nat) (value : String) : Work Unit := do
  match ← read (·.properties[index]?) with
  | none => check fun t => fail (.node (.unsupported ("missing property on tag '" ++ t.name ++ "'")))
  | some p =>
    check fun _ => p.refuseMarker "set_value"
    write fun t => { t with properties := t.properties.set index { p with value := some value } }

def writeSide (index : Nat) (value : String) : Work Unit := do
  if (← read (·.shape)) ≠ .pair then refuse "pair accessor on a non-pair tag"
  writeAt index value

end Work

open Work in
def work : Operation → Work Answer
  | .addProperty p => do
    check (·.refuseShapedProperties "add_property")
    if ← read (·.hasProperty p) then return .flag false
    write fun t => { t with properties := t.properties ++ [p] }
    return .flag true
  | .removeProperty p => do
    check (·.refuseShapedProperties "remove_property")
    if !(← read (·.hasProperty p)) then return .flag false
    write fun t => { t with properties := t.properties.eraseP (·.same p) }
    return .flag true
  | .appendContent line => do
    check (·.refuseFrozenBody)
    if (← read (·.item?)).isSome then refuse "content on a list tag"
    write fun t => { t with content := some (joinLine t.content line) }
    return .done
  | .removeContent => do
    check (·.refuseClosed)
    let old ← read (·.content)
    write fun t => { t with content := none }
    return .text old
  | .addChild child => do
    check (·.refuseFrozenBody)
    if let some item := ← read (·.item?) then
      check fun _ => failIf (child.name ≠ item) (.node (.listChildMismatch item child.name))
    write fun t => { t with children := t.children ++ [child] }
    return .done
  | .removeChild index => do
    check (·.refuseClosed)
    match ← read (·.children[index]?) with
    | none => return .child none
    | some child =>
      write fun t => { t with children := t.children.eraseIdx index }
      return .child (some child)
  | .setVoid void => do
    check (·.refuseClosed)
    check fun t => failIf (void && (t.content.isSome || !t.children.isEmpty)) (.node (.notEmpty t.name))
    write fun t => { t with void }
    return .done
  | .close => do
    write close
    return .done
  | .setValue value => do
    if (← read (·.shape)) ≠ .scalar then refuse "set_value on a non-scalar tag"
    writeAt 0 value
    return .done
  | .setLeft value => do
    writeSide 0 value
    return .done
  | .setRight value => do
    writeSide 1 value
    return .done
  | .narrowToList => do
    if ← read fun t => t.void || t.content.isSome then
      refuse "list from a void tag or a tag with content"
    match ← read (·.children.head?) with
    | none => refuse "list without children"
    | some first =>
      if ← read (·.children.any (·.name != first.name)) then refuse "list with heterogeneous children"
      write fun t => { t with shape := .list first.name }
      return .done
  | .narrowToPair => do
    if !(← read fun t => t.void && t.hasPairProperties) then
      refuse "pair without exactly 'left' and 'right' values"
    write fun t => { t with shape := .pair }
    return .done
  | .narrowToScalar => do
    if !(← read fun t => t.void && t.hasScalarProperties) then
      refuse "scalar without exactly one 'value' property"
    write fun t => { t with shape := .scalar }
    return .done
  | .widen => do
    write widen
    return .done

def performInPlace (t : Tag) (op : Operation) : Except Error Answer × Tag := work op t

end TabMarkup.Tag
