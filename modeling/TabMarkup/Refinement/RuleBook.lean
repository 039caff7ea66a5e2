import TabMarkup.Table
import TabMarkup.Text.Quoted
import TabMarkup.Document.Basic

/-!
Rule books: what becomes of a node that has been built. A rule says which nodes it takes
and what it makes of them; of the rules that take a node, the last in the book applies.
-/
namespace TabMarkup

structure Rule (α : Type) where
  accepts : α → Bool
  apply : α → Except Error α

structure RuleBook (α : Type) where
  rules : Table String (Rule α) := {}

namespace RuleBook
variable {α : Type}

def ids (b : RuleBook α) : List String := b.rules.keys

/-- The ids as a list of quoted texts. -/
def text (b : RuleBook α) : String := "[" ++ ", ".intercalate (b.ids.map Text.quote) ++ "]"

/-- Answers whether the id is new; a rule under an old id takes the place of its rule. -/
def register (b : RuleBook α) (id : String) (rule : Rule α) : Bool × RuleBook α :=
  (!b.rules.contains id, ⟨b.rules.insert id rule⟩)

/-- Answers whether there was a rule of that id. -/
def unregister (b : RuleBook α) (id : String) : Bool × RuleBook α :=
  (b.rules.contains id, ⟨b.rules.erase id⟩)

/-- The last rule that takes the node, with its id. -/
def select (b : RuleBook α) (node : α) : Option (String × Rule α) :=
  b.rules.entries.reverse.find? fun e => e.2.accepts node

/-- The id of the rule that would refine the node. -/
def matching (b : RuleBook α) (node : α) : Option String := (b.select node).map Prod.fst

def accepts (b : RuleBook α) (node : α) : Bool := (b.matching node).isSome

def refine (b : RuleBook α) (node : α) : Except Error α :=
  match b.select node with
  | some (_, rule) => rule.apply node
  | none => .ok node

end RuleBook

/-- A rule book for every kind of node. -/
structure Refiner where
  tags : RuleBook Tag := {}
  properties : RuleBook Property := {}
  documents : RuleBook Document := {}

end TabMarkup
