import TabMarkup.Markup.Line
import TabMarkup.Proofs.Text.Lines
import TabMarkup.Proofs.Text.Trim

/-!
Texts that differ in their layout only: in lines of blanks, and in the carriage returns before the
newlines.
-/
namespace TabMarkup

namespace Text

/-- A line of blanks, without more tabs in front than there may be. -/
structure Empty (depth : Nat) (l : List Char) : Prop where
  blank : ∀ c ∈ l, isBlank c = true
  shallow : (l.takeWhile (· == '\t')).length ≤ depth

/-- The second text is the first one with empty lines put in or taken out, and with a carriage return
at the end of some of its lines. Every line of the two has its newline. -/
inductive Noisy (depth : Nat) : List Char → List Char → Prop
  | nil : Noisy depth [] []
  | line {l cs ds : List Char} (free : '\n' ∉ l) (behind : Noisy depth cs ds) :
    Noisy depth (l ++ '\n' :: cs) (l ++ '\n' :: ds)
  | returned {l cs ds : List Char} (free : '\n' ∉ l) (behind : Noisy depth cs ds) :
    Noisy depth (l ++ '\n' :: cs) (l ++ '\r' :: '\n' :: ds)
  | inserted {l cs ds : List Char} (free : '\n' ∉ l) (empty : Empty depth l)
    (behind : Noisy depth cs ds) : Noisy depth cs (l ++ '\n' :: ds)
  | deleted {l cs ds : List Char} (free : '\n' ∉ l) (empty : Empty depth l)
    (behind : Noisy depth cs ds) : Noisy depth (l ++ '\n' :: cs) ds

variable {depth : Nat} {cs ds l : List Char}

theorem Noisy.ended (h : Noisy depth cs ds) : Ended cs ∧ Ended ds := by
  induction h with
  | nil => exact ⟨ended_nil, ended_nil⟩
  | line free _ ih => exact ⟨(ended_append_mark _ _).2 ih.1, (ended_append_mark _ _).2 ih.2⟩
  | @returned l _ ds free _ ih =>
    refine ⟨(ended_append_mark _ _).2 ih.1, ?_⟩
    simpa using (ended_append_mark (l ++ ['\r']) ds).2 ih.2
  | inserted free empty _ ih => exact ⟨ih.1, (ended_append_mark _ _).2 ih.2⟩
  | deleted free empty _ ih => exact ⟨(ended_append_mark _ _).2 ih.1, ih.2⟩

theorem dropReturn_prefix_self (l : List Char) : dropReturn l <+: l := by
  unfold dropReturn
  split
  · exact l.dropLast_prefix
  · exact List.prefix_refl l

theorem Empty.of_prefix {k : List Char} (h : Empty depth l) (start : k <+: l) : Empty depth k := by
  refine ⟨fun c mem => h.blank c (start.subset mem), Nat.le_trans ?_ h.shallow⟩
  obtain ⟨rest, rfl⟩ := start
  rw [List.takeWhile_append]
  split
  · rename_i all
    simp [all]
  · exact Nat.le_refl _

end Text

namespace Line

/-- A line that is read as a blank one, at no more than that depth. -/
def Skipped (depth : Nat) (raw : List Char) : Prop :=
  (classify 0 raw).kind = .blank ∧ (classify 0 raw).indent ≤ depth

theorem kindOf_blank {body : List Char} (blank : ∀ c ∈ body, Text.isBlank c = true) :
    kindOf body = .blank := by
  have trimmed : Text.trimEnd body = [] := by
    rcases Text.trimEnd_cases body with ⟨none, -⟩ | ⟨ds, c, bs, -, solid, split, -⟩
    · exact none
    · have blank := blank c (by rw [split]; simp)
      rw [solid] at blank
      cases blank
  simp [kindOf, trimmed, startsLegacy, Text.stripStart?]

theorem skipped_of_empty {depth : Nat} {raw : List Char} (empty : Text.Empty depth raw) :
    Skipped depth raw := by
  have less := empty.of_prefix (Text.dropReturn_prefix_self raw)
  exact ⟨kindOf_blank fun c mem => less.blank c (List.mem_of_mem_drop mem), less.shallow⟩

/-- The same lines, but for blank ones. -/
inductive Spaced (depth : Nat) : List (List Char) → List (List Char) → Prop
  | nil : Spaced depth [] []
  | both {ls ms : List (List Char)} (l : List Char) (behind : Spaced depth ls ms) :
    Spaced depth (l :: ls) (l :: ms)
  | left {ls ms : List (List Char)} {l : List Char} (skipped : Skipped depth l)
    (behind : Spaced depth ls ms) : Spaced depth (l :: ls) ms
  | right {ls ms : List (List Char)} {l : List Char} (skipped : Skipped depth l)
    (behind : Spaced depth ls ms) : Spaced depth ls (l :: ms)

theorem Spaced.symm {depth : Nat} {ls ms : List (List Char)} (h : Spaced depth ls ms) :
    Spaced depth ms ls := by
  induction h with
  | nil => exact .nil
  | both l _ ih => exact .both l ih
  | left skipped _ ih => exact .right skipped ih
  | right skipped _ ih => exact .left skipped ih

end Line

open Text in
/-- Where carriage returns were not there before, nothing but empty lines is changed. -/
theorem Text.Noisy.spaced {depth : Nat} {cs ds : List Char} (h : Noisy depth cs ds)
    (plain : '\r' ∉ cs) : Line.Spaced depth (lines cs) (lines ds) := by
  have skipped {l : List Char} (empty : Empty depth l) : Line.Skipped depth (dropReturn l) :=
    Line.skipped_of_empty (empty.of_prefix (dropReturn_prefix_self l))
  induction h with
  | nil => exact .nil
  | line free _ ih =>
    rw [lines_append_mark free, lines_append_mark free]
    exact .both _ (ih fun mem => plain (by simp [mem]))
  | @returned l cs ds free _ ih =>
    have kept : dropReturn l = l :=
      dropReturn_of_getLast? fun last => plain (by simp [List.mem_of_getLast? last])
    have free' : '\n' ∉ l ++ ['\r'] := by simp [free]
    have split : l ++ '\r' :: '\n' :: ds = l ++ ['\r'] ++ '\n' :: ds := by simp
    rw [split, lines_append_mark free, lines_append_mark free', dropReturn_append_return, kept]
    exact .both _ (ih fun mem => plain (by simp [mem]))
  | inserted free empty _ ih =>
    rw [lines_append_mark free]
    exact .right (skipped empty) (ih plain)
  | deleted free empty _ ih =>
    rw [lines_append_mark free]
    exact .left (skipped empty) (ih fun mem => plain (by simp [mem]))

end TabMarkup
