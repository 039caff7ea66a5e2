import TabMarkup.Proofs.Lists
import TabMarkup.Proofs.Service.Provide

/-!
Histories of a registry. A run starts without services and provides one after another; whether a
service can be used is answered anew in every call. The log says what was provided and how that
ended, and the active service of a key can be read off it.
-/
namespace TabMarkup.Service

/-- A service to provide, with the answers that services give when they are asked whether they can
be used. A call asks no service twice. -/
structure Swap where
  key : String
  id : ServiceId
  usable : ServiceId → Bool

def Pool.answering (p : Pool) (usable : ServiceId → Bool) : Pool :=
  { p with service := fun i => { p.service i with usable := usable i } }

/-- A call of `provide`: what it was given, what was active before, and how it ended. -/
structure Event where
  key : String
  id : ServiceId
  previous : Option ServiceId
  outcome : Journaled Provision

namespace Event

def fault? (e : Event) : Option Fault :=
  match e.outcome.result with
  | .ok _ => none
  | .error error => some error.fault

def installed (e : Event) : Bool :=
  match e.outcome.result with
  | .ok .installed => true
  | _ => false

/-- The newcomer could not be used, and there was nothing to go back to. -/
def refused (e : Event) : Bool :=
  match e.fault? with
  | some (.service (.noUsableService _)) => true
  | _ => false

/-- Neither the newcomer nor the service before it could be used. -/
def lost (e : Event) : Bool :=
  match e.fault? with
  | some (.service (.rollbackUnusable _)) => true
  | _ => false

section Endings
variable (key : String) (id : ServiceId) (previous : Option ServiceId) (entries : Array Entry)

@[simp] theorem installed_ok (o : Provision) :
    (mk key id previous ⟨.ok o, entries⟩).installed = decide (o = .installed) := by
  cases o <;> rfl

@[simp] theorem refused_ok (o : Provision) :
    (mk key id previous ⟨.ok o, entries⟩).refused = false := rfl

@[simp] theorem lost_ok (o : Provision) :
    (mk key id previous ⟨.ok o, entries⟩).lost = false := rfl

@[simp] theorem fault?_fail (f : Fault) :
    (mk key id previous ⟨fail f, entries⟩).fault? = some f := rfl

@[simp] theorem installed_fail (f : Fault) :
    (mk key id previous ⟨fail f, entries⟩).installed = false := rfl

end Endings

/-- What is active for a key after the event, if something or nothing was active before it. -/
def standing (e : Event) (key : String) (before : Option ServiceId) : Option ServiceId :=
  if e.key = key ∧ e.installed = true then some e.id
  else if e.key = key ∧ e.lost = true then none
  else before

/-- Calls for other keys, and those that neither install nor lose a service, change nothing. -/
theorem standing_of_aside {e : Event} {key : String} (aside : e.key ≠ key ∨
    e.outcome.result = .ok .unchanged ∨ e.outcome.result = .ok .rolledBack ∨ e.refused = true)
    (before : Option ServiceId) : e.standing key before = before := by
  rcases aside with other | unchanged | rolledBack | useless
  · simp [standing, other]
  · simp [standing, installed, lost, fault?, unchanged]
  · simp [standing, installed, lost, fault?, rolledBack]
  · cases ended : e.outcome.result with
    | ok provision => simp [refused, fault?, ended] at useless
    | error error =>
      simp only [refused, fault?, ended] at useless
      split at useless
      · next fault => simp [standing, installed, lost, fault?, ended, fault]
      · cases useless

end Event

structure Run where
  registry : Registry := .empty
  pool : Pool
  log : List Event := []

namespace Run

def call (s : Run) (w : Swap) : Registry.Provided :=
  s.registry.provide (s.pool.answering w.usable) w.key w.id

def event (s : Run) (w : Swap) : Event :=
  ⟨w.key, w.id, s.registry.active? w.key, (s.call w).outcome⟩

def step (s : Run) (w : Swap) : Run :=
  ⟨(s.call w).registry, (s.call w).pool, s.log ++ [s.event w]⟩

def of (p : Pool) (ws : List Swap) : Run := ws.foldl step { pool := p }

/-- What holds at the start and is kept by every step holds of every run. -/
theorem of_induction (Inv : Run → Prop) {p : Pool} (start : Inv { pool := p })
    (next : ∀ s w, Inv s → Inv (s.step w)) (ws : List Swap) : Inv (of p ws) := by
  have from_any (s : Run) (ws : List Swap) (now : Inv s) : Inv (ws.foldl step s) := by
    induction ws generalizing s with
    | nil => exact now
    | cons w ws ih => exact ih (s.step w) (next s w now)
  exact from_any _ ws start

end Run

/-! ### One call -/

namespace Registry
variable {r : Registry} {p : Pool} {key : String} {id : ServiceId} {q : Provided}

theorem active?_insert (k : String) :
    (Registry.mk (r.active.insert key id)).active? k = if k = key then some id else r.active? k :=
  r.active.get?_insert key k id

theorem active?_erase (k : String) :
    (Registry.mk (r.active.erase key)).active? k = if k = key then none else r.active? k :=
  r.active.get?_erase key k

theorem Course.standing (course : Course r p key id q) (previous : Option ServiceId) (k : String) :
    q.registry.active? k = (Event.mk key id previous q.outcome).standing k (r.active? k) := by
  cases course with
  | unchanged active => simp [Event.standing]
  | installed inactive usable => simp [Event.standing, active?_insert, eq_comm]
  | refused vacant unusable => simp [Event.standing, Event.lost]
  | rolledBack i active other unusable usable => simp [Event.standing]
  | lost i active other unusable useless => simp [Event.standing, Event.lost, active?_erase, eq_comm]

theorem Course.unchanged_iff (course : Course r p key id q) :
    q.outcome.result = .ok .unchanged ↔ r.active? key = some id := by
  cases course with
  | unchanged active => simp [active]
  | installed inactive usable => simp [inactive]
  | refused vacant unusable => simp [vacant, fail]
  | rolledBack i active other unusable usable => simp [active, other]
  | lost i active other unusable useless => simp [active, other, fail]

/-- A service that is active already is not called, and no other is. -/
theorem Course.silent (course : Course r p key id q)
    (unchanged : q.outcome.result = .ok .unchanged) : q.outcome.entries = #[] := by
  cases course with
  | unchanged active => rfl
  | installed inactive usable => cases unchanged
  | refused vacant unusable => cases unchanged
  | rolledBack i active other unusable usable => cases unchanged
  | lost i active other unusable useless => cases unchanged

theorem Course.vacant (course : Course r p key id q) {previous : Option ServiceId}
    (refused : (Event.mk key id previous q.outcome).refused = true) : r.active? key = none := by
  cases course with
  | unchanged active => cases refused
  | installed inactive usable => cases refused
  | refused vacant unusable => exact vacant
  | rolledBack i active other unusable usable => cases refused
  | lost i active other unusable useless => cases refused

end Registry

/-! ### Reading the log -/

/-- The last event that settles a key, by installing a service or losing one, installs this one. -/
def LastInstalled (log : List Event) (key : String) (id : ServiceId) : Prop :=
  ∃ before e after, log = before ++ e :: after ∧ e.key = key ∧ e.id = id ∧ e.installed = true ∧
    ∀ later ∈ after, later.key = key → later.installed = false ∧ later.lost = false

theorem not_lastInstalled_nil {key : String} {id : ServiceId} : ¬ LastInstalled [] key id := by
  rintro ⟨before, e, after, split, -⟩
  simp at split

/-- An event at the end settles its key, or leaves the key as the log before it does. -/
theorem lastInstalled_concat {log : List Event} {e : Event} {key : String} {id : ServiceId} :
    LastInstalled (log ++ [e]) key id ↔
      (e.key = key ∧ e.id = id ∧ e.installed = true) ∨
        LastInstalled log key id ∧ (e.key = key → e.installed = false ∧ e.lost = false) := by
  constructor
  · rintro ⟨before, e', after, split, forKey, same, installed, unsettled⟩
    rcases concat_eq_append_cons.1 split with ⟨rfl, rfl, rfl⟩ | ⟨rest, rfl, earlier⟩
    · exact .inl ⟨forKey, same, installed⟩
    · rw [List.forall_mem_append] at unsettled
      exact .inr ⟨⟨before, e', rest, earlier, forKey, same, installed, unsettled.1⟩,
        unsettled.2 e (List.mem_singleton.2 rfl)⟩
  · rintro (⟨forKey, same, installed⟩ | ⟨earlier, aside⟩)
    · exact ⟨log, e, [], rfl, forKey, same, installed, List.forall_mem_nil _⟩
    · obtain ⟨before, e', after, rfl, forKey, same, installed, unsettled⟩ := earlier
      refine ⟨before, e', after ++ [e], by simp, forKey, same, installed, ?_⟩
      rw [List.forall_mem_append]
      exact ⟨unsettled, by simpa using aside⟩

namespace Run

theorem course (s : Run) (w : Swap) :
    Registry.Course s.registry (s.pool.answering w.usable) w.key w.id (s.call w) :=
  s.registry.course (s.pool.answering w.usable) w.key w.id

theorem active?_step (s : Run) (w : Swap) (key : String) :
    (s.step w).registry.active? key = (s.event w).standing key (s.registry.active? key) :=
  (s.course w).standing _ key

theorem active?_eq_some (p : Pool) (ws : List Swap) (key : String) (id : ServiceId) :
    (of p ws).registry.active? key = some id ↔ LastInstalled (of p ws).log key id := by
  refine of_induction (fun s => s.registry.active? key = some id ↔ LastInstalled s.log key id)
    (iff_of_false nofun not_lastInstalled_nil) (fun s w ih => ?_) ws
  rw [active?_step, step, lastInstalled_concat, ← ih]
  by_cases forKey : (s.event w).key = key
  · cases installed : (s.event w).installed <;> cases lost : (s.event w).lost <;>
      simp [Event.standing, forKey, installed, lost]
  · simp [Event.standing, forKey]

/-- The active service of a key is the one that was last installed for it, if the key has not lost
its service since. Only these two ends of a call change a key, and only a call for this key does. A
newcomer is refused for a vacant key only, and a call for an active service calls no service. -/
theorem active?_of_log :
    (∀ p ws key id,
      (of p ws).registry.active? key = some id ↔ LastInstalled (of p ws).log key id) ∧
    ∀ (s : Run) (w : Swap),
      (∀ key, (w.key ≠ key ∨ (s.event w).outcome.result = .ok .unchanged ∨
          (s.event w).outcome.result = .ok .rolledBack ∨ (s.event w).refused = true) →
        (s.step w).registry.active? key = s.registry.active? key) ∧
      ((s.event w).refused = true → s.registry.active? w.key = none) ∧
      ((s.event w).outcome.result = .ok .unchanged ↔ s.registry.active? w.key = some w.id) ∧
      ((s.event w).outcome.result = .ok .unchanged → (s.event w).outcome.entries = #[]) := by
  refine ⟨active?_eq_some, fun s w => ⟨fun key aside => ?_, ?_, ?_, ?_⟩⟩
  · rw [active?_step, Event.standing_of_aside aside]
  · exact (s.course w).vacant
  · exact (s.course w).unchanged_iff
  · exact (s.course w).silent

/-- The newcomer cannot be used, and the first service is active again. -/
example : (of {} [⟨readingKey, 0, fun _ => true⟩, ⟨readingKey, 1, (· == 0)⟩]).registry.active?
    readingKey = some 0 := by decide

end Run
end TabMarkup.Service
