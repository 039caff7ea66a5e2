import TabMarkup.Text.Blank
import TabMarkup.Error

/-! The heads of tags: the name, and the text of the properties behind it. -/
namespace TabMarkup

structure Head where
  name : String
  properties : List Char
  deriving DecidableEq, Repr

namespace Head

def malformed {α : Type} (markup : List Char) : Except Error α :=
  fail (.markup (.malformedTag (String.ofList markup)))

def isNameChar (c : Char) : Bool :=
  c != '<' && c != '>' && c != '"' && c != '=' && c != '/' && c != '\t'

def isName (cs : List Char) : Bool := !cs.isEmpty && cs.all isNameChar

/-- What stands between the angle brackets, less blanks at the end. -/
def inner? (void : Bool) (markup : List Char) : Option (List Char) := do
  let rest ← Text.stripStart? ['<'] markup
  let inner ← Text.stripEnd? (if void then ['/', '>'] else ['>']) rest
  return Text.trimEnd inner

/-- Splits an opening or a void tag at its first space. -/
def parse (void : Bool) (markup : List Char) : Except Error Head :=
  match inner? void markup with
  | none => malformed markup
  | some inner =>
    let name := inner.takeWhile (· != ' ')
    let rest := inner.drop (name.length + 1)
    if isName name then .ok ⟨String.ofList name, Text.trim rest⟩ else malformed markup

/-- The name in a closing tag, which holds nothing else. -/
def closingName (markup : List Char) : Except Error String :=
  if markup.any Text.isBlank then
    fail (.markup (.spacesInClosingTag (String.ofList markup)))
  else match (Text.stripStart? ['<', '/'] markup).bind (Text.stripEnd? ['>']) with
    | none => malformed markup
    | some name => if isName name then .ok (String.ofList name) else malformed markup

end Head
end TabMarkup
