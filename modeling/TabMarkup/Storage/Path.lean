import TabMarkup.Text.Lines

/-!
Paths: steps between slashes. A single dot is a step to where one is, two dots lead to the
directory above; any other step is a name. A place is where steps lead to.
-/
namespace TabMarkup.Path

abbrev Step := List Char

def here : Step := ['.']
def up : Step := ['.', '.']

/-- Stands for the root, which no step between slashes can. -/
def root : Step := ['/']

def isName (step : Step) : Bool := step ≠ here && step ≠ up

/-- A place as the steps that lead to it, the last one first, from the working directory or
from the root. Steps upwards come before all names. -/
abbrev Place := List Step

/-- The place above; above the working directory are places of which nothing is known, and
above the root is the root. -/
def parent : Place → Place
  | [] => [up]
  | step :: rest => if step = up then up :: step :: rest else if step = root then [root] else rest

def follow (place : Place) (step : Step) : Place :=
  if step = here then place else if step = up then parent place else step :: place

def steps (path : String) : List Step := (Text.pieces '/' path.toList).filter (· ≠ [])
def start (path : String) : Place := if path.toList.head? = some '/' then [root] else []
def endsInSlash (path : String) : Bool := path.toList.getLast? == some '/'

/-- The last name of a path, unless it leads upwards or nowhere. -/
def fileName? (path : String) : Option String :=
  match ((steps path).filter (· ≠ here)).getLast? with
  | none => none
  | some step => if step = up then none else some (String.ofList step)

/-- What follows the last dot of the file name, if something comes before that dot. -/
def extension? (path : String) : Option String := do
  let name := (← fileName? path).toList
  let parts := Text.pieces '.' name
  let last ← parts.getLast?
  if parts.length < 2 || name.length ≤ last.length + 1 then none else some (String.ofList last)

end TabMarkup.Path
