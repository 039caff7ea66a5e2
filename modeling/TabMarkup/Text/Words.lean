import TabMarkup.Text.Blank

/-! Words between blanks, and comparison that ignores the case of ASCII letters. -/
namespace TabMarkup.Text

/-- Puts a finished word in front, unless it is empty. -/
def keep (word : List Char) (words : List (List Char)) : List (List Char) :=
  if word.isEmpty then words else word :: words

/-- The maximal runs of characters that are not blank. -/
def words (cs : List Char) : List (List Char) :=
  let (word, rest) := cs.foldr
    (fun c (word, rest) => if isBlank c then ([], keep word rest) else (c :: word, rest))
    ([], [])
  keep word rest

def sameLetters (a b : List Char) : Bool := a.map Char.toLower == b.map Char.toLower

end TabMarkup.Text
