import Mathlib.Algebra.GroupWithZero.Nat
import TabMarkup.Config
import TabMarkup.Proofs.Lists

/-!
A meter over any sequence of sizes and depths, allowed or not. Its size is the exact sum of all the
sizes, up to the greatest 64-bit number where it stays, so that a size that was once too large is too
large for good. Its depth is the one that was entered last.
-/
namespace TabMarkup.Meter

inductive Operation where
  | addSize (size : Nat)
  | enterLevel (depth : Nat)
  deriving DecidableEq, Repr

/-- What an operation adds to the exact size. -/
def Operation.size : Operation → Nat
  | addSize size => size
  | enterLevel _ => 0

def perform (m : Meter) (op : Operation) (c : Config) : Except Error Unit × Meter :=
  match op with
  | .addSize size => m.addSize size c
  | .enterLevel depth => m.enterLevel depth c

/-- An operation, and what was answered to it. -/
structure Event where
  op : Operation
  answer : Except Error Unit

/-- The depth that was entered. -/
def Event.entered? (e : Event) : Option Nat :=
  match e.op, e.answer with
  | .enterLevel depth, .ok () => some depth
  | _, _ => none

/-- A meter that was new, with all that it was asked and has answered. -/
structure Run where
  log : List Event := []
  meter : Meter := {}

/-- The exact size of all that was added, whatever was answered. -/
def total (log : List Event) : Nat := (log.map fun e => e.op.size).sum

theorem total_append (log more : List Event) : total (log ++ more) = total log + total more := by
  simp [total]

/-- More is never less. -/
theorem total_take_le (log : List Event) {i j : Nat} (le : i ≤ j) :
    total (log.take i) ≤ total (log.take j) := by
  obtain ⟨more, whole⟩ := List.take_prefix_take_left (l := log) le
  rw [← whole, total_append]
  exact Nat.le_add_right _ _

/-! ### One operation -/

section Operations
variable {m : Meter} {c : Config}

/-- Machine words are added as they are if they do not carry. -/
theorem size_add_words (depth : Nat) (size more : UInt64) :
    (add ⟨depth, size.toNat⟩ more.toNat).size =
      if size + more < size then top else (size + more).toNat := by
  have small := size.toNat_lt
  have small' := more.toNat_lt
  simp only [add, top, UInt64.lt_iff_toNat_lt, UInt64.toNat_add, UInt64.size]
  split <;> omega

theorem addSize_eq_ok {size : Nat} :
    (m.addSize size c).1 = .ok () ↔ min (m.size + size) top ≤ c.maxSize := by
  rw [addSize, Config.checkSize, failIf_eq_ok, decide_eq_false_iff_not, Nat.not_lt]
  rfl

/-- An operation leaves the count alone that it is not about. -/
theorem perform_cases (m : Meter) (op : Operation) (c : Config) :
    (∃ size, op = .addSize size ∧ (m.perform op c).2 = m.add size) ∨
    (∃ depth, op = .enterLevel depth ∧ m.perform op c = (.ok (), { m with depth })) ∨
      ∃ depth e, op = .enterLevel depth ∧ m.perform op c = (.error e, m) := by
  cases op with
  | addSize size => exact .inl ⟨size, rfl, rfl⟩
  | enterLevel depth =>
    simp only [perform, enterLevel]
    split
    · exact .inr (.inl ⟨depth, rfl, rfl⟩)
    · exact .inr (.inr ⟨depth, _, rfl, rfl⟩)

end Operations

/-! ### Runs -/

namespace Run
variable {c : Config} {r : Run}

def step (c : Config) (r : Run) (op : Operation) : Run :=
  let (answer, meter) := r.meter.perform op c
  { log := r.log ++ [⟨op, answer⟩], meter }

def of (c : Config) (ops : List Operation) : Run := ops.foldl (step c) {}

theorem log_step (c : Config) (r : Run) (op : Operation) :
    (r.step c op).log = r.log ++ [⟨op, (r.meter.perform op c).1⟩] := rfl

theorem meter_step (c : Config) (r : Run) (op : Operation) :
    (r.step c op).meter = (r.meter.perform op c).2 := rfl

/-- The meter shows the exact size and the last depth, and has answered by the sizes as they were. -/
structure Exact (c : Config) (r : Run) : Prop where
  size : r.meter.size = min (total r.log) top
  depth : r.meter.depth = (r.log.filterMap Event.entered?).getLast?.getD 0
  answers : ∀ (i size : Nat) (answer : Except Error Unit), r.log[i]? = some ⟨.addSize size, answer⟩ →
    (answer = .ok () ↔ min (total (r.log.take (i + 1))) top ≤ c.maxSize)

theorem Exact.step (h : r.Exact c) (op : Operation) : (r.step c op).Exact c := by
  constructor
  case size =>
    rw [log_step, meter_step, total_append]
    rcases perform_cases r.meter op c with
      ⟨size, rfl, done⟩ | ⟨depth, rfl, done⟩ | ⟨depth, e, rfl, done⟩
    · have shown := h.size
      simp only [done, add, total, List.map_singleton, List.sum_singleton, Operation.size] at shown ⊢
      omega
    all_goals simpa [done, total, Operation.size] using h.size
  case depth =>
    rw [log_step, meter_step, List.filterMap_append]
    rcases perform_cases r.meter op c with
      ⟨size, rfl, done⟩ | ⟨depth, rfl, done⟩ | ⟨depth, e, rfl, done⟩
    all_goals simp [done, add, h.depth, Event.entered?]
  case answers =>
    intro i size answer here
    rw [log_step] at here ⊢
    rcases getElem?_concat.1 here with earlier | ⟨rfl, now⟩
    · obtain ⟨inside, -⟩ := List.getElem?_eq_some_iff.1 earlier
      rw [List.take_append_of_le_length inside]
      exact h.answers i size answer earlier
    · cases now
      have shown := h.size
      rw [List.take_of_length_le (by simp), total_append, perform, addSize_eq_ok]
      simp only [total, List.map_singleton, List.sum_singleton, Operation.size] at shown ⊢
      omega

theorem exact_foldl (h : r.Exact c) (ops : List Operation) :
    (ops.foldl (Run.step c) r).Exact c := by
  induction ops generalizing r with
  | nil => exact h
  | cons op ops ih => exact ih (h.step op)

theorem exact_of (c : Config) (ops : List Operation) : (of c ops).Exact c :=
  exact_foldl ⟨rfl, rfl, by simp⟩ ops

theorem ops_foldl (c : Config) (r : Run) (ops : List Operation) :
    (ops.foldl (Run.step c) r).log.map Event.op = r.log.map Event.op ++ ops := by
  induction ops generalizing r with
  | nil => simp
  | cons op ops ih => rw [List.foldl_cons, ih, log_step]; simp

/-- Over every sequence of operations the meter shows the exact size of all that was added, or the top
if that is more, and the depth that was entered last. A size is accepted if what is shown with it is
allowed; once one is refused, so are all that follow. Words are added without carrying over the top, and
no operation touches the count that it is not about. -/
theorem metered (c : Config) (ops : List Operation) :
    (of c ops).log.map Event.op = ops ∧
    (of c ops).meter.size = min (total (of c ops).log) top ∧
    (of c ops).meter.depth = ((of c ops).log.filterMap Event.entered?).getLast?.getD 0 ∧
    (∀ (i size : Nat) (answer : Except Error Unit),
      (of c ops).log[i]? = some ⟨.addSize size, answer⟩ →
        (answer = .ok () ↔ min (total ((of c ops).log.take (i + 1))) top ≤ c.maxSize)) ∧
    (∀ (i j size size' : Nat) (answer answer' : Except Error Unit), i ≤ j →
      (of c ops).log[i]? = some ⟨.addSize size, answer⟩ →
      (of c ops).log[j]? = some ⟨.addSize size', answer'⟩ → answer ≠ .ok () → answer' ≠ .ok ()) ∧
    (∀ (m : Meter) (size depth : Nat),
      (m.addSize size c).2.depth = m.depth ∧ (m.enterLevel depth c).2.size = m.size) ∧
    ∀ (depth : Nat) (size more : UInt64), (add ⟨depth, size.toNat⟩ more.toNat).size =
      if size + more < size then top else (size + more).toNat := by
  have exact' := exact_of c ops
  refine ⟨by simpa [of] using ops_foldl c {} ops, exact'.size, exact'.depth, exact'.answers, ?_,
    fun m size depth => ⟨rfl, ?_⟩, size_add_words⟩
  · intro i j size size' answer answer' le first later refused accepted
    have small := (exact'.answers j size' answer' later).1 accepted
    have more := total_take_le (of c ops).log (Nat.add_le_add_right le 1)
    exact refused ((exact'.answers i size answer first).2 (by omega))
  · rcases perform_cases m (.enterLevel depth) c with
      ⟨size, ⟨⟩, -⟩ | ⟨depth, ⟨⟩, done⟩ | ⟨depth, e, ⟨⟩, done⟩
    all_goals exact congrArg (fun p => p.2.size) done

def asked : List Operation := [.enterLevel 2, .enterLevel 3, .addSize 6, .addSize 5, .addSize 0]

/-- The fourth operation goes past the limit of ten, and nothing that is added after it is accepted. -/
theorem metered_asked :
    let r := of { maxDepth := 2, maxSize := 10 } asked
    r.meter.size = 11 ∧ r.meter.depth = 2 ∧
      ∃ answer, r.log[4]? = some ⟨.addSize 0, answer⟩ ∧ answer ≠ .ok () := by
  obtain ⟨-, size, depth, -, stays, -, -⟩ := metered { maxDepth := 2, maxSize := 10 } asked
  exact ⟨size.trans (by decide), depth.trans rfl, _, rfl,
    stays 3 4 5 0 _ _ (by decide) rfl rfl (by nofun)⟩

end Run
end TabMarkup.Meter
