import TabMarkup.Tree.Writing
import TabMarkup.Tree.Comparison

/-!
The body of a document: top-level tags, with the blank lines between them where they
were kept. A blank in first place stands for the line that always follows the
declarations, so it is not written again.
-/
namespace TabMarkup

structure Body where
  /-- `none` is a blank line. -/
  entries : Array (Option Tag) := #[]

namespace Body

def empty : Body := {}
def ofTags (tags : List Tag) : Body := ⟨(tags.map some).toArray⟩
def push (b : Body) (t : Tag) : Body := ⟨b.entries.push (some t)⟩
def pushBlank (b : Body) : Body := ⟨b.entries.push none⟩

/-- The entries that are tags. -/
def tags (b : Body) : List Tag := b.entries.toList.filterMap id

theorem tags_push (b : Body) (t : Tag) : (b.push t).tags = b.tags ++ [t] := by
  simp [tags, push]

theorem tags_pushBlank (b : Body) : b.pushBlank.tags = b.tags := by
  simp [tags, pushBlank]

def tagCount (b : Body) : Nat := b.tags.length
def tagAt? (b : Body) (index : Nat) : Option Tag := b.tags[index]?

def modifyTag (f : Tag → Tag) : Nat → List (Option Tag) → List (Option Tag)
  | _, [] => []
  | n, none :: es => none :: modifyTag f n es
  | 0, some t :: es => some (f t) :: es
  | n + 1, some t :: es => some t :: modifyTag f n es

/-- Changes a tag found by its number among the tags. -/
def modifyTagAt (b : Body) (index : Nat) (f : Tag → Tag) : Body :=
  ⟨(modifyTag f index b.entries.toList).toArray⟩

/-- Removes an entry, found by its number among all entries. -/
def removeEntry (b : Body) (index : Nat) : Option (Option Tag × Body) :=
  b.entries[index]?.map fun e => (e, ⟨(b.entries.toList.eraseIdx index).toArray⟩)

def closeAll (b : Body) : Body := ⟨b.entries.map (·.map Tag.close)⟩

def writeEntry (out : String) : Option Tag × Nat → String
  | (some t, _) => t.write 0 out ++ "\n"
  | (none, 0) => out
  | (none, _ + 1) => out ++ "\n"

def write (b : Body) (out : String) : String := b.entries.toList.zipIdx.foldl writeEntry out

def render (b : Body) : String := b.write ""

def sameEntry : Option Tag → Option Tag → Bool
  | none, none => true
  | some t, some u => t.same u
  | _, _ => false

def same (b c : Body) : Bool :=
  b.entries.size == c.entries.size &&
    (b.entries.toList.zip c.entries.toList).all fun (e, f) => sameEntry e f

/-- Compares the tags and not the blanks. -/
def matching (b c : Body) : Bool :=
  b.tagCount == c.tagCount && (b.tags.zip c.tags).all fun (t, u) => t.matching u

end Body
end TabMarkup
