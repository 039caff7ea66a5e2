import TabMarkup.Text.Lines
import TabMarkup.Tree.Tag

/-!
The canonical text of a tag. The head comes first, then the children and then the lines
of the content, each on a line of its own with one tab per level, then the closing tag.
A void tag is its head alone.
-/
namespace TabMarkup.Tag

def tabs (depth : Nat) : String := String.ofList (List.replicate depth '\t')

def newline (depth : Nat) (out : String) : String := out ++ "\n" ++ tabs depth

def writeHead (name : String) (properties : List Property) (out : String) : String :=
  properties.foldl (fun out p => out ++ " " ++ p.render) (out ++ "<" ++ name)

def writeContent (depth : Nat) (content : Option String) (out : String) : String :=
  match content with
  | none => out
  | some text =>
    (Text.pieces '\n' text.toList).foldl (fun out line => newline depth out ++ String.ofList line) out

mutual

/-- Writes a tag that stands at a depth behind `out`. -/
def write (depth : Nat) : Tag → String → String
  | ⟨name, content, void, _, children, properties, _⟩, out =>
    let out := writeHead name properties out
    if void then out ++ " />"
    else
      let out := writeChildren (depth + 1) children (out ++ ">")
      let out := writeContent (depth + 1) content out
      newline depth out ++ "</" ++ name ++ ">"

def writeChildren (depth : Nat) : List Tag → String → String
  | [], out => out
  | t :: ts, out => writeChildren depth ts (write depth t (newline depth out))

end

def render (t : Tag) : String := write 0 t ""

end TabMarkup.Tag
