import TabMarkup.Error

/-!
Tokens of a property list, and the pairs they make. Spaces and equals signs separate
tokens, except between double quotes; the quotes themselves are dropped, so a quoted
token may be empty.
-/
namespace TabMarkup

structure Token where
  text : String
  quoted : Bool
  deriving DecidableEq, Repr

namespace Token

def invalid (line : List Char) : Error :=
  .ofFault (.markup (.invalidProperties (String.ofList line)))

/-- A tokenizer in the middle of a line. The word holds its last character first, the
tokens the last token first. -/
structure State where
  tokens : List Token := []
  word : List Char := []
  /-- The word has had a quote in it. -/
  quoted : Bool := false
  inQuotes : Bool := false

/-- Ends a word; an empty one counts only if it was quoted. -/
def State.flush (s : State) : State :=
  if s.word.isEmpty && !s.quoted then { s with quoted := false }
  else { s with
    tokens := ⟨String.ofList s.word.reverse, s.quoted⟩ :: s.tokens, word := [], quoted := false }

def State.step (s : State) (c : Char) : State :=
  if c = '"' then
    if s.inQuotes then { s with inQuotes := false } else { s with inQuotes := true, quoted := true }
  else if s.inQuotes then { s with word := c :: s.word }
  else if c = ' ' || c = '=' then s.flush
  else { s with word := c :: s.word }

def tokenize (line : List Char) : Except Error (List Token) :=
  let s := line.foldl State.step {}
  if s.inQuotes then .error ((invalid line).withContext "unterminated quote")
  else .ok s.flush.tokens.reverse

def isSeparator (c : Char) : Bool := c == ' ' || c == '=' || c == '"'

/-- A key is written without quotes, so it cannot hold a separator. -/
def key (line : List Char) (t : Token) : Except Error String :=
  if t.text = "" then fail (.markup .emptyPropertyKey)
  else if t.text.toList.any isSeparator then
    .error ((invalid line).withContext
      ("property key '" ++ t.text ++ "' contains a separator"))
  else .ok t.text

/-- Pairs up tokens behind the pairs that are done, the last of which comes first. -/
def pairUp (line : List Char) (done : List (String × String)) :
    List Token → Except Error (List (String × String))
  | k :: v :: rest =>
    match key line k with
    | .error e => .error e
    | .ok name => pairUp line ((name, v.text) :: done) rest
  | _ => .ok done.reverse

end Token

/-- The pairs of keys and values in a property list. -/
def parseProperties (line : List Char) : Except Error (List (String × String)) :=
  match Token.tokenize line with
  | .error e => .error e
  | .ok tokens =>
    if tokens.length % 2 = 1 then .error (Token.invalid line) else Token.pairUp line [] tokens

end TabMarkup
