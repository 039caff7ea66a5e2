import TabMarkup.Tree.Tag

/-!
Two ways in which tags are equal. `same` compares everything but whether a property is
a marker; `matching` compares what the written form shows: names, properties, content,
void flags and nesting, whatever the shapes and whether closed or not.
-/
namespace TabMarkup

def sameProperties (ps qs : List Property) : Bool :=
  ps.length == qs.length && (ps.zip qs).all fun (p, q) => p.same q

namespace Tag

mutual

def same : Tag → Tag → Bool
  | ⟨name, content, void, closed, children, properties, shape⟩, u =>
    name == u.name && content == u.content && void == u.void && closed == u.closed &&
      sameAll children u.children && sameProperties properties u.properties && shape == u.shape

def sameAll : List Tag → List Tag → Bool
  | [], [] => true
  | t :: ts, u :: us => same t u && sameAll ts us
  | _, _ => false

end

mutual

def matching : Tag → Tag → Bool
  | ⟨name, content, void, _, children, properties, _⟩, u =>
    name == u.name && void == u.void && content == u.content &&
      sameProperties properties u.properties && children.length == u.children.length &&
      matchingAll children u.children

/-- Compares side by side, up to the end of the shorter list. -/
def matchingAll : List Tag → List Tag → Bool
  | t :: ts, u :: us => matching t u && matchingAll ts us
  | _, _ => true

end
end Tag
end TabMarkup
