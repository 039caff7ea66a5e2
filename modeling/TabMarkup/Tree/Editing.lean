import TabMarkup.Tree.Tag

/-!
Edits as data: one operation on one tag, found by the way to it from the root. An
operation that is refused, or whose way leads nowhere, leaves the tree as it was.
-/
namespace TabMarkup.Tag

inductive Operation where
  | addProperty (property : Property)
  | removeProperty (property : Property)
  | appendContent (line : String)
  | removeContent
  | addChild (child : Tag)
  | removeChild (index : Nat)
  | setVoid (void : Bool)
  | close
  | setValue (value : String)
  | setLeft (value : String)
  | setRight (value : String)
  | narrowToList
  | narrowToPair
  | narrowToScalar
  | widen

/-- What an operation answers besides the tag. -/
inductive Answer where
  | done
  | flag (b : Bool)
  | text (old : Option String)
  | child (removed : Option Tag)

def apply (t : Tag) : Operation → Except Error (Answer × Tag)
  | .addProperty p => (t.addProperty p).map fun (b, t) => (.flag b, t)
  | .removeProperty p => (t.removeProperty p).map fun (b, t) => (.flag b, t)
  | .appendContent line => (t.appendContent line).map (.done, ·)
  | .removeContent => t.removeContent.map fun (old, t) => (.text old, t)
  | .addChild child => (t.addChild child).map (.done, ·)
  | .removeChild index => (t.removeChild index).map fun (removed, t) => (.child removed, t)
  | .setVoid void => (t.setVoid void).map (.done, ·)
  | .close => .ok (.done, t.close)
  | .setValue value => (t.setValue value).map (.done, ·)
  | .setLeft value => (t.setLeft value).map (.done, ·)
  | .setRight value => (t.setRight value).map (.done, ·)
  | .narrowToList => t.narrowToList.map (.done, ·)
  | .narrowToPair => t.narrowToPair.map (.done, ·)
  | .narrowToScalar => t.narrowToScalar.map (.done, ·)
  | .widen => .ok (.done, t.widen)

def perform (t : Tag) (op : Operation) : Except Error Answer × Tag :=
  match t.apply op with
  | .ok (answer, u) => (.ok answer, u)
  | .error e => (.error e, t)

/-- The tag at the end of a way of child places. -/
def descendant? : List Nat → Tag → Option Tag
  | [], t => some t
  | i :: way, t => t.children[i]?.bind (descendant? way)

/-- Changes the tag at the end of a way, if the way leads to one. -/
def modifyAt (f : Tag → Tag) : List Nat → Tag → Tag
  | [], t => f t
  | i :: way, t => { t with children := t.children.modify i (modifyAt f way) }

def performAt (t : Tag) (way : List Nat) (op : Operation) : Option (Except Error Answer) × Tag :=
  match t.descendant? way with
  | none => (none, t)
  | some u => (some (u.perform op).1, t.modifyAt (fun u => (u.perform op).2) way)

end TabMarkup.Tag
