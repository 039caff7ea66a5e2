import Mathlib.Data.List.Induction
import TabMarkup.Proofs.Lists
import TabMarkup.Refinement.RuleBook

/-!
Which rule of a book applies. Of the rules that take a node it is the last in the book. The order of
a book is that in which its ids came in: an id that gets another rule keeps its place, and one that
was removed and comes back stands at the end.
-/
namespace TabMarkup.RuleBook

variable {α : Type} {b : RuleBook α} {m n node : α} {id : String} {rule : Rule α}

/-! ### Selecting a rule -/

theorem select_eq_some :
    b.select node = some (id, rule) ↔ rule.accepts node = true ∧
      ∃ before later, b.rules.entries = before ++ (id, rule) :: later ∧
        ∀ e ∈ later, e.2.accepts node = false := by
  rw [select, List.find?_eq_some_iff_append]
  refine and_congr_right fun _ => ?_
  constructor
  · rintro ⟨later, before, split, rejected⟩
    refine ⟨before.reverse, later.reverse, ?_, by simpa using rejected⟩
    simpa using congrArg List.reverse split
  · rintro ⟨before, later, split, rejected⟩
    exact ⟨later.reverse, before.reverse, by simp [split], by simpa using rejected⟩

theorem select_eq_none :
    b.select node = none ↔ ∀ e ∈ b.rules.entries, e.2.accepts node = false := by
  simp [select]

/-- A node that no rule takes is left alone. -/
theorem refine_eq_self (rejected : ∀ e ∈ b.rules.entries, e.2.accepts node = false) :
    b.refine node = .ok node := by
  rw [refine, select_eq_none.2 rejected]

/-- What comes out of a rule book is the node or was made by one of its rules. -/
theorem of_refine (h : b.refine m = .ok n) :
    n = m ∨ ∃ e ∈ b.rules.entries, e.2.apply m = .ok n := by
  unfold refine at h
  split at h
  · rename_i id rule found
    exact .inr ⟨(id, rule), List.mem_reverse.1 (List.mem_of_find?_eq_some found), h⟩
  · exact .inl (Except.ok.inj h).symm

/-! ### Histories -/

inductive Change (α : Type) where
  | register (id : String) (rule : Rule α)
  | unregister (id : String)

def change (b : RuleBook α) : Change α → RuleBook α
  | .register id rule => (b.register id rule).2
  | .unregister id => (b.unregister id).2

/-- The book that changes lead to, one after the other. -/
def ofHistory (history : List (Change α)) : RuleBook α := history.foldl change {}

/-- The history splits at a registration of the id after which the id was not removed. -/
structure Stands (history : List (Change α)) (id : String) (before : List (Change α)) (rule : Rule α)
    (later : List (Change α)) : Prop where
  split : history = before ++ .register id rule :: later
  kept : .unregister id ∉ later

def Present (history : List (Change α)) (id : String) : Prop :=
  ∃ before rule later, Stands history id before rule later

/-- The id came in at this place of the history: it was registered here while it was not present, for
the first time since it was last removed, and it was not removed later. -/
def EnteredAt (history : List (Change α)) (id : String) (place : Nat) : Prop :=
  ∃ before rule later, Stands history id before rule later ∧ before.length = place ∧
    ¬ Present before id

/-- The rule that the id got last. -/
def Current (history : List (Change α)) (id : String) (rule : Rule α) : Prop :=
  ∃ before later, Stands history id before rule later ∧ ∀ other, .register id other ∉ later

variable {history : List (Change α)} {c : Change α} {place : Nat}

theorem stands_concat {before later : List (Change α)} :
    Stands (history ++ [c]) id before rule later ↔
      before = history ∧ c = .register id rule ∧ later = [] ∨
        ∃ rest, later = rest ++ [c] ∧ c ≠ .unregister id ∧ Stands history id before rule rest := by
  constructor
  · rintro ⟨split, kept⟩
    rcases concat_eq_append_cons.1 split with ⟨rfl, rfl, rfl⟩ | ⟨rest, rfl, earlier⟩
    · exact .inl ⟨rfl, rfl, rfl⟩
    · rw [List.mem_append, List.mem_singleton, not_or] at kept
      exact .inr ⟨rest, rfl, Ne.symm kept.2, earlier, kept.1⟩
  · rintro (⟨rfl, rfl, rfl⟩ | ⟨rest, rfl, other, rfl, kept⟩)
    · exact ⟨rfl, List.not_mem_nil⟩
    · exact ⟨by simp, by simp [kept, Ne.symm other]⟩

theorem present_concat :
    Present (history ++ [c]) id ↔
      (∃ rule, c = .register id rule) ∨ c ≠ .unregister id ∧ Present history id := by
  constructor
  · rintro ⟨before, rule, later, stands⟩
    rcases stands_concat.1 stands with ⟨-, rfl, -⟩ | ⟨rest, -, other, stands⟩
    · exact .inl ⟨rule, rfl⟩
    · exact .inr ⟨other, before, rule, rest, stands⟩
  · rintro (⟨rule, rfl⟩ | ⟨other, before, rule, later, stands⟩)
    · exact ⟨history, rule, [], stands_concat.2 (.inl ⟨rfl, rfl, rfl⟩)⟩
    · exact ⟨before, rule, _, stands_concat.2 (.inr ⟨later, rfl, other, stands⟩)⟩

theorem enteredAt_concat :
    EnteredAt (history ++ [c]) id place ↔
      place = history.length ∧ (∃ rule, c = .register id rule) ∧ ¬ Present history id ∨
        c ≠ .unregister id ∧ EnteredAt history id place := by
  constructor
  · rintro ⟨before, rule, later, stands, rfl, absent⟩
    rcases stands_concat.1 stands with ⟨rfl, rfl, -⟩ | ⟨rest, -, other, stands⟩
    · exact .inl ⟨rfl, ⟨rule, rfl⟩, absent⟩
    · exact .inr ⟨other, before, rule, rest, stands, rfl, absent⟩
  · rintro (⟨rfl, ⟨rule, rfl⟩, absent⟩ | ⟨other, before, rule, later, stands, rfl, absent⟩)
    · exact ⟨history, rule, [], stands_concat.2 (.inl ⟨rfl, rfl, rfl⟩), rfl, absent⟩
    · exact ⟨before, rule, _, stands_concat.2 (.inr ⟨later, rfl, other, stands⟩), rfl, absent⟩

theorem current_concat :
    Current (history ++ [c]) id rule ↔
      c = .register id rule ∨
        c ≠ .unregister id ∧ (∀ other, c ≠ .register id other) ∧ Current history id rule := by
  constructor
  · rintro ⟨before, later, stands, last⟩
    rcases stands_concat.1 stands with ⟨-, rfl, -⟩ | ⟨rest, rfl, other, stands⟩
    · exact .inl rfl
    · simp only [List.mem_append, List.mem_singleton, not_or] at last
      exact .inr ⟨other, fun r => Ne.symm (last r).2, before, rest, stands, fun r => (last r).1⟩
  · rintro (rfl | ⟨other, unchanged, before, later, stands, last⟩)
    · exact ⟨history, [], stands_concat.2 (.inl ⟨rfl, rfl, rfl⟩), fun _ => List.not_mem_nil⟩
    · refine ⟨before, _, stands_concat.2 (.inr ⟨later, rfl, other, stands⟩), fun r => ?_⟩
      simp [last r, Ne.symm (unchanged r)]

theorem EnteredAt.lt (h : EnteredAt history id place) : place < history.length := by
  obtain ⟨before, rule, later, ⟨rfl, -⟩, rfl, -⟩ := h
  simp

/-- An id that is present came in at some place. -/
theorem present_iff_enteredAt : Present history id ↔ ∃ place, EnteredAt history id place := by
  constructor
  · induction history using List.reverseRecOn with
    | nil =>
      rintro ⟨before, rule, later, split, -⟩
      simp at split
    | append_singleton history c ih =>
      simp only [present_concat, enteredAt_concat]
      rintro (⟨rule, rfl⟩ | ⟨other, present⟩)
      · -- An id that is there and gets another rule came in before.
        by_cases present : Present history id
        · obtain ⟨place, entered⟩ := ih present
          exact ⟨place, .inr ⟨nofun, entered⟩⟩
        · exact ⟨_, .inl ⟨rfl, ⟨rule, rfl⟩, present⟩⟩
      · obtain ⟨place, entered⟩ := ih present
        exact ⟨place, .inr ⟨other, entered⟩⟩
  · rintro ⟨-, before, rule, later, stands, -⟩
    exact ⟨before, rule, later, stands⟩

/-- A change does not move an id that is present. -/
theorem EnteredAt.of_concat (h : EnteredAt (history ++ [c]) id place) (old : Present history id) :
    EnteredAt history id place := by
  rcases enteredAt_concat.1 h with ⟨-, -, absent⟩ | ⟨-, entered⟩
  · exact absurd old absent
  · exact entered

/-! ### The book of a history -/

/-- The ids of the book are those that are present, in the order in which they came in, and the rules
are those that they got last. -/
structure Follows (b : RuleBook α) (history : List (Change α)) : Prop where
  present : ∀ id, id ∈ b.ids ↔ Present history id
  order : b.ids.Pairwise fun i j =>
    ∀ place place', EnteredAt history i place → EnteredAt history j place' → place < place'
  current : ∀ id rule, b.rules.get? id = some rule ↔ Current history id rule

namespace Follows

theorem start : ({} : RuleBook α).Follows [] where
  present id := by
    refine iff_of_false List.not_mem_nil ?_
    rintro ⟨before, rule, later, split, -⟩
    simp at split
  order := .nil
  current id rule := by
    refine iff_of_false nofun ?_
    rintro ⟨before, later, ⟨split, -⟩, -⟩
    simp at split

/-- The ids that were there keep their order. -/
theorem order_concat (h : b.Follows history) (c : Change α) :
    b.ids.Pairwise fun i j => ∀ place place', EnteredAt (history ++ [c]) i place →
      EnteredAt (history ++ [c]) j place' → place < place' := by
  refine h.order.imp_of_mem fun {i j} hi hj earlier place place' entered entered' => ?_
  exact earlier place place' (entered.of_concat ((h.present i).1 hi))
    (entered'.of_concat ((h.present j).1 hj))

theorem register (h : b.Follows history) (id : String) (rule : Rule α) :
    (b.register id rule).2.Follows (history ++ [.register id rule]) := by
  have ids : (b.register id rule).2.ids = if id ∈ b.ids then b.ids else b.ids ++ [id] :=
    b.rules.keys_insert id rule
  refine ⟨fun j => ?_, ?_, fun j other => ?_⟩
  · rw [ids, present_concat, ← h.present]
    by_cases same : j = id
    · by_cases old : id ∈ b.ids <;> simp [same, old]
    · by_cases old : id ∈ b.ids <;> simp [same, Ne.symm same, old]
  · rw [ids]
    split
    · exact h.order_concat _
    · rename_i new
      rw [h.present] at new
      -- The new id comes in behind all that are there.
      refine List.pairwise_append.2 ⟨h.order_concat _, List.pairwise_singleton _ _, ?_⟩
      intro i old j last place place' entered entered'
      rw [List.mem_singleton.1 last] at entered'
      have before := (entered.of_concat ((h.present i).1 old)).lt
      rcases enteredAt_concat.1 entered' with ⟨rfl, -⟩ | ⟨-, earlier⟩
      · exact before
      · exact absurd (present_iff_enteredAt.2 ⟨_, earlier⟩) new
  · have got : (b.register id rule).2.rules.get? j = if j = id then some rule else b.rules.get? j :=
      b.rules.get?_insert id j rule
    rw [got, current_concat, ← h.current]
    by_cases same : j = id
    · simp [same]
    · simp [same, Ne.symm same]

theorem unregister (h : b.Follows history) (id : String) :
    (b.unregister id).2.Follows (history ++ [.unregister id]) := by
  have ids : (b.unregister id).2.ids = b.ids.filter (· ≠ id) := b.rules.keys_erase id
  refine ⟨fun j => ?_, ?_, fun j rule => ?_⟩
  · rw [ids, present_concat, ← h.present]
    by_cases same : j = id
    · simp [same]
    · simp [same, Ne.symm same]
  · rw [ids]
    exact (h.order_concat _).sublist List.filter_sublist
  · have got : (b.unregister id).2.rules.get? j = if j = id then none else b.rules.get? j :=
      b.rules.get?_erase id j
    rw [got, current_concat, ← h.current]
    by_cases same : j = id
    · simp [same]
    · simp [same, Ne.symm same]

theorem change (h : b.Follows history) (c : Change α) : (b.change c).Follows (history ++ [c]) := by
  cases c with
  | register id rule => exact h.register id rule
  | unregister id => exact h.unregister id

theorem ofHistory (history : List (Change α)) : (RuleBook.ofHistory history).Follows history := by
  induction history using List.reverseRecOn with
  | nil => exact start
  | append_singleton history c ih =>
    rw [RuleBook.ofHistory, List.foldl_append]
    exact ih.change c

theorem nodup (h : b.Follows history) : b.ids.Nodup := by
  refine h.order.imp_of_mem fun {i j} hi _ earlier same => ?_
  obtain ⟨place, entered⟩ := present_iff_enteredAt.1 ((h.present i).1 hi)
  exact Nat.lt_irrefl place (earlier place place entered (same ▸ entered))

/-- The entries of the book are the rules that its ids got last. -/
theorem mem_entries (h : b.Follows history) :
    (id, rule) ∈ b.rules.entries ↔ Current history id rule :=
  (Table.mem_entries_iff h.nodup).trans (h.current id rule)

end Follows

theorem Current.unique {other : Rule α} (h : Current history id rule) (h' : Current history id other) :
    rule = other := by
  have got := ((Follows.ofHistory history).current id rule).2 h
  have got' := ((Follows.ofHistory history).current id other).2 h'
  exact Option.some.inj (got.symm.trans got')

/-- Of the ids in the book this is the last one whose rule takes the node. -/
structure Decides (history : List (Change α)) (node : α) (id : String) (rule : Rule α) : Prop where
  current : Current history id rule
  takes : rule.accepts node = true
  last : ∃ before later, (ofHistory history).ids = before ++ id :: later ∧
    ∀ j ∈ later, ∀ other, Current history j other → other.accepts node = false

theorem select_ofHistory :
    (ofHistory history).select node = some (id, rule) ↔ Decides history node id rule := by
  have book := Follows.ofHistory history
  rw [select_eq_some]
  constructor
  · rintro ⟨takes, before, later, split, rejected⟩
    refine ⟨book.mem_entries.1 (by simp [split]), takes, before.map Prod.fst, later.map Prod.fst,
      by simp [ids, Table.keys, split], ?_⟩
    intro j mem other got
    obtain ⟨⟨j, rule'⟩, behind, rfl⟩ := List.mem_map.1 mem
    have known : Current history j rule' := book.mem_entries.1 (by rw [split]; simp [behind])
    exact got.unique known ▸ rejected (j, rule') behind
  · rintro ⟨current, takes, before, later, places, rejected⟩
    obtain ⟨es, _, split, rfl, rest⟩ := List.map_eq_append_iff.1 places
    obtain ⟨⟨id, rule'⟩, fs, rfl, rfl, rfl⟩ := List.map_eq_cons_iff.1 rest
    have known : Current history id rule' := book.mem_entries.1 (by simp [split])
    cases current.unique known
    refine ⟨takes, es, fs, split, fun e behind => ?_⟩
    have got : Current history e.1 e.2 := book.mem_entries.1 (by simp [split, behind])
    exact rejected e.1 (List.mem_map_of_mem behind) e.2 got

/-- The ids of a book are those that were registered and not removed since, in the order in which they
came in, each once; registering answers whether the id is new. A node is refined by the last id whose
rule takes it, and is left alone where no rule does. -/
theorem refine_ofHistory (history : List (Change α)) :
    (ofHistory history).ids.Nodup ∧
    (∀ id, id ∈ (ofHistory history).ids ↔ ∃ place, EnteredAt history id place) ∧
    ((ofHistory history).ids.Pairwise fun i j =>
      ∀ place place', EnteredAt history i place → EnteredAt history j place' → place < place') ∧
    (∀ id rule, ((ofHistory history).register id rule).1 = true ↔ ¬ Present history id) ∧
    ∀ node : α,
      (∃ id rule, Decides history node id rule ∧ (ofHistory history).matching node = some id ∧
        (ofHistory history).accepts node = true ∧
        (ofHistory history).refine node = rule.apply node) ∨
      ((∀ id rule, Current history id rule → rule.accepts node = false) ∧
        (ofHistory history).matching node = none ∧ (ofHistory history).accepts node = false ∧
        (ofHistory history).refine node = .ok node) := by
  have book := Follows.ofHistory history
  refine ⟨book.nodup, fun id => ?_, book.order, fun id rule => ?_, fun node => ?_⟩
  · rw [book.present, present_iff_enteredAt]
  · have answer : ((ofHistory history).register id rule).1 = !(ofHistory history).rules.contains id := rfl
    rw [answer, Bool.not_eq_true', ← Bool.not_eq_true, Table.contains_iff]
    exact not_congr (book.present id)
  · cases selected : (ofHistory history).select node with
    | some e =>
      obtain ⟨id, rule⟩ := e
      refine .inl ⟨id, rule, select_ofHistory.1 selected, ?_⟩
      simp [matching, accepts, refine, selected]
    | none =>
      refine .inr ⟨fun id rule current => ?_, ?_⟩
      · exact select_eq_none.1 selected (id, rule) (book.mem_entries.2 current)
      · simp [matching, accepts, refine, selected]

/-- An id that gets another rule keeps its place, one that comes back does not. -/
example (r s : Rule α) :
    (ofHistory [.register "list" r, .register "pair" r, .register "list" s]).ids = ["list", "pair"] ∧
      (ofHistory [.register "list" r, .register "pair" r, .unregister "list",
        .register "list" s]).ids = ["pair", "list"] :=
  ⟨rfl, rfl⟩

end TabMarkup.RuleBook
