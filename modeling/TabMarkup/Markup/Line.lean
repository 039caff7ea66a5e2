import TabMarkup.Text.Lines
import TabMarkup.Text.Blank

/-!
What a line of a document is. The tabs in front are its indentation; of the rest, the
markup is what stands before blanks at the end. A line of content keeps those blanks.
-/
namespace TabMarkup

namespace Line

/-- The kinds of lines, each with the text that later steps read. -/
inductive Kind where
  | declaration (markup : List Char)
  /-- A version declaration without the exclamation mark. -/
  | legacy (markup : List Char)
  | void (markup : List Char)
  | closing (markup : List Char)
  | opening (markup : List Char)
  | blank
  | content (text : List Char)
  deriving DecidableEq, Repr

def Kind.name : Kind → String
  | declaration _ => "declaration"
  | legacy _ => "legacy"
  | void _ => "void"
  | closing _ => "closing"
  | opening _ => "opening"
  | blank => "blank"
  | content _ => "content"

def Kind.text : Kind → List Char
  | declaration markup | legacy markup | void markup | closing markup | opening markup => markup
  | blank => []
  | content text => text

def startsLegacy (markup : List Char) : Bool :=
  match Text.stripStart? ['<', 'S', 'K', 'D'] markup with
  | some (c :: _) => c == ' ' || c == '>'
  | _ => false

def kindOf (body : List Char) : Kind :=
  let markup := Text.trimEnd body
  if ['<', '!'].isPrefixOf markup then .declaration markup
  else if startsLegacy markup then .legacy markup
  else if ['<'].isPrefixOf markup then
    if ['/', '>'].isSuffixOf markup then .void markup
    else if ['<', '/'].isPrefixOf markup then .closing markup
    else .opening markup
  else if markup.isEmpty then .blank
  else .content body

end Line

structure Line where
  number : Nat
  indent : Nat
  kind : Line.Kind
  deriving DecidableEq, Repr

namespace Line

/-- Classifies a line, less one carriage return at its end. -/
def classify (number : Nat) (raw : List Char) : Line :=
  let raw := Text.dropReturn raw
  let tabs := raw.takeWhile (· == '\t')
  ⟨number, tabs.length, kindOf (raw.drop tabs.length)⟩

/-- The column of the first character after the indentation. -/
def column (l : Line) : Nat := l.indent + 1

end Line
end TabMarkup
