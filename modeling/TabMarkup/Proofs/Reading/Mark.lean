import TabMarkup.Reading.Scan
import TabMarkup.Proofs.Text.Lines

/-!
Marks: what the lines of a document say once their markup has been read, each with the
indentation of its line. Whether a line can be read does not depend on the lines before it.
-/
namespace TabMarkup

inductive Mark where
  | declaration (d : Declaration)
  | opening (name : String) (pairs : List (String × String))
  | void (name : String) (pairs : List (String × String))
  | closing (name : String)
  | blank
  | content (text : String)
  deriving DecidableEq, Repr

namespace Mark

def readHead (void : Bool) (markup : List Char) : Except Error (String × List (String × String)) := do
  let head ← Head.parse void markup
  return (head.name, ← parseProperties head.properties)

/-- What a line of some kind says. Legacy declarations depend on the configuration. -/
def read (c : Config) : Line.Kind → Except Error Mark
  | .declaration markup => (Declaration.parse markup).map declaration
  | .legacy markup => (Scan.legacyVersion c markup).map fun number => declaration (.version number)
  | .void markup => (readHead true markup).map fun (name, pairs) => void name pairs
  | .closing markup => (Head.closingName markup).map closing
  | .opening markup => (readHead false markup).map fun (name, pairs) => opening name pairs
  | .blank => .ok blank
  | .content text => .ok (content (String.ofList text))

def readLine (c : Config) (raw : List Char) : Except Error (Nat × Mark) :=
  let line := Line.classify 0 raw
  (read c line.kind).map (line.indent, ·)

def readText (c : Config) (text : String) : Except Error (List (Nat × Mark)) :=
  (Text.lines text.toList).mapM (readLine c)

end Mark

/-- The limits on the properties of one tag. -/
def Config.Fits (c : Config) (pairs : List (String × String)) : Prop :=
  pairs.length ≤ c.maxProperties ∧ ∀ p ∈ pairs, p.2.utf8ByteSize ≤ c.maxStringLength

instance (c : Config) (pairs : List (String × String)) : Decidable (c.Fits pairs) :=
  inferInstanceAs (Decidable (_ ∧ _))

/-- The limits on the lines of a text: their size, a byte for the end of each included, as far
as a meter counts, and their indentations. -/
def Config.Admits (c : Config) (ls : List (List Char)) : Prop :=
  min (Text.size ls) Meter.top ≤ c.maxSize ∧ ∀ l ∈ ls, (Line.classify 0 l).indent ≤ c.maxDepth

instance (c : Config) (ls : List (List Char)) : Decidable (c.Admits ls) :=
  inferInstanceAs (Decidable (_ ∧ _))

namespace Mark

theorem readHead_eq_ok {void : Bool} {markup : List Char} {name : String}
    {pairs : List (String × String)} :
    readHead void markup = .ok (name, pairs) ↔
      ∃ head, Head.parse void markup = .ok head ∧ head.name = name ∧
        parseProperties head.properties = .ok pairs := by
  simp only [readHead, bind_eq_ok, pure_eq_ok, Except.ok.injEq, Prod.mk.injEq]
  constructor
  · rintro ⟨head, hh, ps, hp, rfl, rfl⟩
    exact ⟨head, hh, rfl, hp⟩
  · rintro ⟨head, hh, rfl, hp⟩
    exact ⟨head, hh, pairs, hp, rfl, rfl⟩

theorem read_eq_opening {c : Config} {kind : Line.Kind} {name : String} {pairs : List (String × String)} :
    read c kind = .ok (.opening name pairs) ↔
      ∃ markup, kind = .opening markup ∧ readHead false markup = .ok (name, pairs) := by
  cases kind <;> simp [read, map_eq_ok]

theorem read_eq_closing {c : Config} {kind : Line.Kind} {name : String} :
    read c kind = .ok (.closing name) ↔
      ∃ markup, kind = .closing markup ∧ Head.closingName markup = .ok name := by
  cases kind <;> simp [read, map_eq_ok]

theorem readLine_eq_ok {c : Config} {raw : List Char} {k : Nat} {m : Mark} :
    readLine c raw = .ok (k, m) ↔
      (Line.classify 0 raw).indent = k ∧ read c (Line.classify 0 raw).kind = .ok m := by
  simp only [readLine, map_eq_ok, Prod.mk.injEq]
  constructor
  · rintro ⟨m', hm, rfl, rfl⟩
    exact ⟨rfl, hm⟩
  · rintro ⟨rfl, hm⟩
    exact ⟨m, hm, rfl, rfl⟩

theorem exists_of_mapM {c : Config} {ls : List (List Char)} {ms : List (Nat × Mark)}
    (h : ls.mapM (readLine c) = .ok ms) : ∀ m ∈ ms, ∃ l ∈ ls, readLine c l = .ok m := by
  induction ls generalizing ms with
  | nil =>
    cases h
    simp
  | cons l ls ih =>
    rw [List.mapM_cons, bind_eq_ok] at h
    obtain ⟨m, first, tail⟩ := h
    obtain ⟨ms', rest, ⟨⟩⟩ := bind_eq_ok.1 tail
    intro m' hm'
    rcases List.mem_cons.1 hm' with rfl | hm'
    · exact ⟨l, by simp, first⟩
    · obtain ⟨l', hl', read⟩ := ih rest m' hm'
      exact ⟨l', by simp [hl'], read⟩

end Mark
end TabMarkup
