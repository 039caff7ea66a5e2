import TabMarkup.Proofs.Reading.Nest

/-!
Outlines: the tree of a document told by the numbers of its lines, counted from zero. Every
condition on an outline, and the tags it stands for, are read off the marks of the lines.
-/
namespace TabMarkup

/-! ### Lines -/

namespace Mark

def isVoid : Mark → Bool
  | void _ _ => true
  | _ => false

def isHead : Mark → Bool
  | opening _ _ | void _ _ => true
  | _ => false

def head : Mark → String × List (String × String)
  | opening name pairs | void name pairs => (name, pairs)
  | _ => ("", [])

def Opens (ms : List (Nat × Mark)) (l k : Nat) : Prop :=
  ∃ name pairs, ms[l]? = some (k, .opening name pairs)

def Closes (ms : List (Nat × Mark)) (l k : Nat) : Prop := ∃ name, ms[l]? = some (k, .closing name)

def headsBefore (ms : List (Nat × Mark)) (j : Nat) : List Nat :=
  (List.range j).filter fun l => ms[l]?.any (·.2.isHead)

def heads (ms : List (Nat × Mark)) : List Nat := headsBefore ms ms.length

/-- The text of a line of content at an indentation. -/
def contentLine? (k : Nat) : Nat × Mark → Option String
  | (j, .content line) => if j = k then some line else none
  | _ => none

/-- The lines of content at an indentation that stand between two lines. -/
def contentLines (ms : List (Nat × Mark)) (k i j : Nat) : List String :=
  ((ms.take j).drop (i + 1)).filterMap (contentLine? k)

def contentBetween (ms : List (Nat × Mark)) (k i j : Nat) : Option String :=
  match contentLines ms k i j with
  | [] => none
  | lines => some ("\n".intercalate lines)

/-- A line is the last before another that opens a tag one level above it. -/
def IsParent (ms : List (Nat × Mark)) (p i : Nat) : Prop :=
  ∃ k, ms[i]?.map Prod.fst = some (k + 1) ∧ p < i ∧ Opens ms p k ∧ ∀ l, p < l → l < i → ¬ Opens ms l k

/-- A void tag is complete at its own line, and a tag that is opened at the first line behind it
that closes a tag at its indentation. This line has the name of the tag. -/
def Completes (ms : List (Nat × Mark)) (i j : Nat) : Prop :=
  (∃ k name pairs, ms[i]? = some (k, .void name pairs) ∧ j = i) ∨
    ∃ k name pairs, ms[i]? = some (k, .opening name pairs) ∧ i < j ∧
      ms[j]? = some (k, .closing name) ∧ ∀ l, i < l → l < j → ¬ Closes ms l k

end Mark

/-! ### Trees of lines -/

/-- A tag by the line of its head and the line that completes it, with its children. -/
inductive Outline where
  | node (line last : Nat) (children : List Outline)

namespace Outline

def line : Outline → Nat
  | node line _ _ => line

def last : Outline → Nat
  | node _ last _ => last

mutual
def lines : Outline → List Nat
  | node line _ children => line :: linesAll children
def linesAll : List Outline → List Nat
  | [] => []
  | o :: os => lines o ++ linesAll os
end

mutual
def tag (ms : List (Nat × Mark)) : Outline → Tag
  | node line last children =>
    let (k, mark) := ms.getD line (0, .blank)
    { name := mark.head.1
      properties := Property.ofPairs mark.head.2
      void := mark.isVoid
      closed := true
      content := Mark.contentBetween ms (k + 1) line last
      children := tagAll ms children }
def tagAll (ms : List (Nat × Mark)) : List Outline → List Tag
  | [] => []
  | o :: os => tag ms o :: tagAll ms os
end

def Ordered (os : List Outline) : Prop := os.Pairwise fun o p => o.last < p.last

/-- Every tag is complete where its lines say, its children are the tags of which it is the
parent, and they are complete before it and stand in the order in which they are. -/
inductive Placed (ms : List (Nat × Mark)) : Outline → Prop where
  | node {line last : Nat} {children : List Outline} (completes : Mark.Completes ms line last)
      (parent : ∀ o ∈ children, Mark.IsParent ms line o.line) (before : ∀ o ∈ children, o.last < last)
      (ordered : Ordered children) (placed : ∀ o ∈ children, Placed ms o) :
      Placed ms (.node line last children)

theorem linesAll_append (os ps : List Outline) :
    linesAll (os ++ ps) = linesAll os ++ linesAll ps := by
  induction os with
  | nil => rfl
  | cons o os ih => simp [linesAll, ih]

theorem tagAll_append (ms : List (Nat × Mark)) (os ps : List Outline) :
    tagAll ms (os ++ ps) = tagAll ms os ++ tagAll ms ps := by
  induction os with
  | nil => rfl
  | cons o os ih => simp [tagAll, ih]

theorem Ordered.concat {os : List Outline} {o : Outline} (h : Ordered os)
    (last : ∀ p ∈ os, p.last < o.last) : Ordered (os ++ [o]) := by
  rw [Ordered, List.pairwise_append]
  exact ⟨h, by simp, by simpa using last⟩

end Outline

namespace Mark

theorem joinLine_intercalate (lines : List String) (line : String) :
    (match lines ++ [line] with
      | [] => none
      | ls => some ("\n".intercalate ls)) =
      some (Tag.joinLine (match lines with | [] => none | ls => some ("\n".intercalate ls)) line) := by
  cases lines with
  | nil => simp [Tag.joinLine]
  | cons l ls =>
    have := String.intercalate_append_of_ne_nil (l := l :: ls) (m := [line]) (s := "\n")
      (by simp) (by simp)
    simpa [Tag.joinLine] using this

variable {ms : List (Nat × Mark)} {i j k : Nat} {m : Nat × Mark}

theorem contentLines_succ (hm : ms[j]? = some m) (hij : i < j) :
    contentLines ms k i (j + 1) = contentLines ms k i j ++ (contentLine? k m).toList := by
  have len : j < ms.length := (List.getElem?_eq_some_iff.1 hm).1
  have short : (ms.take j).length = j := by simp; omega
  rw [contentLines, List.take_add_one, hm, List.drop_append_of_le_length (by omega),
    List.filterMap_append]
  simp [contentLines, List.filterMap_cons]
  cases contentLine? k m <;> rfl

theorem contentBetween_succ_other (hm : ms[j]? = some m) (hij : i < j)
    (other : contentLine? k m = none) :
    contentBetween ms k i (j + 1) = contentBetween ms k i j := by
  simp [contentBetween, contentLines_succ hm hij, other]

theorem contentBetween_succ_line {line : String} (hm : ms[j]? = some m) (hij : i < j)
    (content : contentLine? k m = some line) :
    contentBetween ms k i (j + 1) = some (Tag.joinLine (contentBetween ms k i j) line) := by
  simp only [contentBetween, contentLines_succ hm hij, content, Option.toList_some]
  exact joinLine_intercalate _ _

theorem contentBetween_self (ms : List (Nat × Mark)) (k i : Nat) :
    contentBetween ms k i i = none := by
  have : (ms.take i).drop (i + 1) = [] := List.drop_eq_nil_of_le (by rw [List.length_take]; omega)
  simp [contentBetween, contentLines, this]

theorem contentBetween_next (ms : List (Nat × Mark)) (k i : Nat) :
    contentBetween ms k i (i + 1) = none := by
  have : (ms.take (i + 1)).drop (i + 1) = [] := List.drop_eq_nil_of_le (by rw [List.length_take]; omega)
  simp [contentBetween, contentLines, this]

theorem headsBefore_succ (hm : ms[j]? = some m) :
    headsBefore ms (j + 1) = headsBefore ms j ++ if m.2.isHead then [j] else [] := by
  simp [headsBefore, List.range_succ, List.filter_cons, hm]

end Mark
end TabMarkup
