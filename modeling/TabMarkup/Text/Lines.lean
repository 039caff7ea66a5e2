/-!
Lines of a text. A line ends at a newline, with one carriage return before it taken
along; the rest after the last newline is a line only if it is not empty, and keeps
its carriage return.
-/
namespace TabMarkup.Text

/-- Adds a character in front of pieces cut at every `mark`; there is always a first piece. -/
def cut (mark c : Char) : List (List Char) → List (List Char)
  | [] => if c = mark then [[], []] else [[c]]
  | p :: ps => if c = mark then [] :: p :: ps else (c :: p) :: ps

/-- The pieces between the occurrences of `mark`, one more than there are of them. -/
def pieces (mark : Char) (cs : List Char) : List (List Char) := cs.foldr (cut mark) [[]]

@[simp] theorem pieces_nil (mark : Char) : pieces mark [] = [[]] := rfl

@[simp] theorem pieces_cons (mark c : Char) (cs : List Char) :
    pieces mark (c :: cs) = cut mark c (pieces mark cs) := rfl

theorem pieces_ne_nil (mark : Char) (cs : List Char) : pieces mark cs ≠ [] := by
  induction cs with
  | nil => simp
  | cons c cs ih =>
    rw [pieces_cons]
    cases h : pieces mark cs with
    | nil => exact absurd h ih
    | cons p ps => simp only [cut]; split <;> simp

/-- Nothing but the marks is lost. -/
theorem intercalate_pieces (mark : Char) (cs : List Char) :
    [mark].intercalate (pieces mark cs) = cs := by
  induction cs with
  | nil => rfl
  | cons c cs ih =>
    rw [pieces_cons]
    cases h : pieces mark cs with
    | nil => exact absurd h (pieces_ne_nil mark cs)
    | cons p ps =>
      rw [h] at ih
      by_cases hc : c = mark
      · subst hc
        simp only [cut, if_true]
        rw [← ih]
        simp [List.intercalate, List.intersperse]
      · simp only [cut, if_neg hc]
        rw [← ih]
        cases ps <;> simp [List.intercalate, List.intersperse]

def dropReturn (cs : List Char) : List Char :=
  if cs.getLast? = some '\r' then cs.dropLast else cs

def lines (cs : List Char) : List (List Char) :=
  let ps := pieces '\n' cs
  ps.dropLast.map dropReturn ++ (ps.getLast?.filter (!·.isEmpty)).toList

end TabMarkup.Text
