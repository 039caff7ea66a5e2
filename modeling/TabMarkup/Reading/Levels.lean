import TabMarkup.Tree.Tag

/-!
The levels of a document that is being read: for each indentation the last tag there,
still open, or closed and already part of its parent. Levels are kept in ascending order.
-/
namespace TabMarkup

inductive Level where
  | opened (tag : Tag)
  | closed (name : String)

def Level.openName? : Level → Option String
  | opened tag => some tag.name
  | closed _ => none

structure Levels where
  slots : List (Nat × Level) := []

namespace Levels

def get? (ls : Levels) (n : Nat) : Option Level := (ls.slots.find? (·.1 == n)).map Prod.snd

def put (ls : Levels) (n : Nat) (l : Level) : Levels :=
  ⟨ls.slots.filter (·.1 < n) ++ (n, l) :: ls.slots.filter (n < ·.1)⟩

def erase (ls : Levels) (n : Nat) : Levels := ⟨ls.slots.filter (·.1 ≠ n)⟩
def below (ls : Levels) (n : Nat) : Levels := ⟨ls.slots.filter (·.1 < n)⟩
def upTo (ls : Levels) (n : Nat) : Levels := ⟨ls.slots.filter (·.1 ≤ n)⟩

/-- The name of the first open tag at an indentation or deeper. -/
def firstOpenFrom (ls : Levels) (n : Nat) : Option String :=
  ls.slots.findSome? fun (i, l) => if n ≤ i then l.openName? else none

def refuseOpenFrom (ls : Levels) (n : Nat) : Except Error Unit :=
  match ls.firstOpenFrom n with
  | some name => fail (.markup (.unclosedTag name))
  | none => .ok ()

/-- The open tag at a level. -/
def parentAt (ls : Levels) (n : Nat) : Except Error Tag :=
  match ls.get? n with
  | some (.opened tag) => .ok tag
  | some (.closed _) => fail (.markup .parentClosed)
  | none => fail (.markup .noParent)

/-- A line at an indentation needs an open tag one level above, unless it has none. -/
def requireParent (ls : Levels) : Nat → Except Error Unit
  | 0 => .ok ()
  | n + 1 => (ls.parentAt n).map fun _ => ()

/-- The open tag that a closing tag of some name closes: the one at its indentation, if no
deeper tag is open. -/
def tagToClose (ls : Levels) (n : Nat) (name : String) : Except Error Tag :=
  if (ls.get? n).bind Level.openName? ≠ some name then fail (.markup (.closedWithoutOpening name))
  else do
    ls.refuseOpenFrom (n + 1)
    match (ls.upTo n).get? n with
    | some (.opened t) => .ok t
    | _ => fail (.markup (.closedWithoutOpening name))

end Levels
end TabMarkup
