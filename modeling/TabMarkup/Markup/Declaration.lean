import TabMarkup.Text.Words
import TabMarkup.Markup.Token

/-!
Declarations: the doctype with its stylesheet, and the version. Keywords are recognized
in any letter case and in any place, and what is left must be the one word declared.
-/
namespace TabMarkup

inductive Declaration where
  | doctype (stylesheet : String)
  | version (number : String)
  deriving DecidableEq, Repr

namespace Declaration

def name : Declaration → String
  | doctype _ => "DOCTYPE"
  | version _ => "SKD"

def value : Declaration → String
  | doctype s => s
  | version v => v

def isDoctypeWord (cs : List Char) : Bool := Text.sameLetters cs ['D', 'O', 'C', 'T', 'Y', 'P', 'E']
def isFormatWord (cs : List Char) : Bool := Text.sameLetters cs ['S', 'K', 'D']
def isVersionWord (cs : List Char) : Bool := Text.sameLetters cs ['v', 'e', 'r', 's', 'i', 'o', 'n']

def invalid (name : String) : Error := .ofFault (.markup (.invalidDeclaration name))

def parseDoctype (inner : List Char) : Except Error Declaration :=
  let words := Text.words inner
  if words.length ≠ 3 then
    .error ((invalid "DOCTYPE").withContext
      ("expected 3 tokens, found " ++ toString words.length))
  else match words.filter fun w => !isDoctypeWord w && !isFormatWord w with
    | [stylesheet] => .ok (.doctype (String.ofList stylesheet))
    | _ => .error ((invalid "DOCTYPE").withContext "expected 'skd' and one stylesheet")

/-- Quoted words are never keywords. -/
def parseVersion (rest : List Char) : Except Error Declaration :=
  match Token.tokenize rest with
  | .error e => .error e
  | .ok tokens =>
    match tokens.filter fun t =>
        t.quoted || !(isVersionWord t.text.toList || isFormatWord t.text.toList) with
    | [t] => .ok (.version t.text)
    | _ => .error ((invalid "SKD").withContext "expected exactly one version")

/-- What stands between the brackets, less blanks at both ends. -/
def inner? (markup : List Char) : Option (List Char) :=
  ((Text.stripStart? ['<', '!'] markup).bind (Text.stripEnd? ['>'])).map Text.trim

def parse (markup : List Char) : Except Error Declaration :=
  match inner? markup with
  | none => .error (invalid (String.ofList markup))
  | some inner =>
    let name := (Text.words inner).headD []
    if isDoctypeWord name then parseDoctype inner
    else if isFormatWord name then parseVersion (inner.drop name.length)
    else fail (.markup (.unrecognizedDeclaration (String.ofList name)))

/-- Puts the exclamation mark into a legacy declaration. -/
def modernize (markup : List Char) : List Char :=
  '<' :: '!' :: (Text.stripStart? ['<'] markup).getD markup

end Declaration
end TabMarkup
