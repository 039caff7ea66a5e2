import TabMarkup.Document.Doctype

/-!
Documents: a body under a doctype and a version. A document with exactly one top-level
tag can be narrowed to a singleton, which shows that tag and hides its body.
-/
namespace TabMarkup

structure Version where
  number : String
  deriving DecidableEq, Repr

def Version.current : Version := ⟨"0.2"⟩
def Version.render (v : Version) : String := "<!SKD version=\"" ++ v.number ++ "\">"

structure Document where
  entries : Body
  doctype : Doctype
  version : Version
  singleton : Bool := false

namespace Document

def variant (d : Document) : Variant := if d.singleton then .singleton else .generic
def tagCount (d : Document) : Nat := d.entries.tagCount

def refuse {α : Type} (what : String) : Except Error α := fail (.node (.unsupported what))

/-- The body, which a singleton hides. -/
def body (d : Document) : Except Error Body :=
  if d.singleton then refuse "structure of a singleton database; use main_tag" else .ok d.entries

/-- The only tag of a singleton. -/
def mainTag (d : Document) : Except Error Tag :=
  match d.singleton, d.entries.tagAt? 0 with
  | true, some t => .ok t
  | _, _ => refuse "main_tag of a non-singleton database"

def modifyBody (d : Document) (f : Body → Body) : Except Error Document := do
  return { d with entries := f (← d.body) }

def modifyMainTag (d : Document) (f : Tag → Tag) : Except Error Document := do
  let _ ← d.mainTag
  return { d with entries := d.entries.modifyTagAt 0 f }

def setVersion (d : Document) (version : Version) : Document := { d with version }

/-- Answers whether the doctype was set: some provider knows it, and the body fits it. -/
def setDoctype (d : Document) (doctype : Doctype) (r : Doctype.Registry)
    (available : Doctype.Availability) : Bool × Document :=
  if !r.knows available doctype then (false, d)
  else if !d.entries.canApply doctype r available then (false, d)
  else match d.entries.apply doctype r available with
    | .error _ => (false, d)
    | .ok () => (true, { d with doctype })

def narrow (d : Document) : Except Error Document :=
  if d.tagCount = 1 then .ok { d with singleton := true }
  else refuse ("singleton database with " ++ toString d.tagCount ++ " top-level tags")

def widen (d : Document) : Document := { d with singleton := false }

def render (d : Document) : String :=
  d.entries.write (d.doctype.render ++ "\n" ++ d.version.render ++ "\n\n")

def same (d e : Document) : Bool :=
  d.entries.same e.entries && d.doctype == e.doctype && d.version == e.version &&
    d.singleton == e.singleton

/-- Equal declarations and matching tags, whatever the variants and blanks. Documents are widened
before they are asked for their bodies. -/
def matching (d e : Document) : Bool :=
  if d.doctype != e.doctype || d.version != e.version then false
  else match d.widen.body, e.widen.body with
    | .ok b, .ok c => b.matching c
    | _, _ => false

/-- Nothing hides the body of a document that was widened. -/
@[simp] theorem body_widen (d : Document) : d.widen.body = .ok d.entries := rfl

theorem matching_eq_true {d e : Document} :
    d.matching e = true ↔
      d.doctype = e.doctype ∧ d.version = e.version ∧ d.entries.matching e.entries = true := by
  rw [matching, body_widen, body_widen]
  by_cases doctype : d.doctype = e.doctype <;> by_cases version : d.version = e.version <;>
    simp [doctype, version]

end Document
end TabMarkup
