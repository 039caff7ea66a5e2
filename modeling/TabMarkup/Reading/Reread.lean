import TabMarkup.Reading.Parse

/-! Reading what was written: a document is rendered and its text read again. -/
namespace TabMarkup

/-- How the document that was read compares with the one that was written. -/
structure Reread where
  same : Bool
  matching : Bool
  /-- It renders to the same text. -/
  stable : Bool
  deriving DecidableEq, Repr

def Context.reread (c : Context) (d : Document) : Except Error Reread := do
  let e ← (c.parse d.render).result
  return ⟨e.same d, d.matching e, e.render == d.render⟩

end TabMarkup
