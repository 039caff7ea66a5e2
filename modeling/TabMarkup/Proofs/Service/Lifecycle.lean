import TabMarkup.Proofs.Service.History

/-!
The balance of beginning and finishing. A service begins once for every key that it is active for,
over and above the times it was finished, but for the calls that leave it stranded: nobody
finishes a service that began in vain when there is nothing to go back to, or when going back fails.
-/
namespace TabMarkup.Service

namespace Registry

/-- The keys that a service is active for, each once. -/
def keysOf (r : Registry) (id : ServiceId) : List String :=
  (r.active.keys.filter fun key => r.active? key == some id).eraseDups

theorem mem_keysOf {r : Registry} {id : ServiceId} {key : String} :
    key ∈ r.keysOf id ↔ r.active? key = some id := by
  simp only [keysOf, List.mem_eraseDups, List.mem_filter, beq_iff_eq, and_iff_right_iff_imp]
  exact Table.mem_keys_of_get?

/-- Registries that agree on all other keys differ in the number of keys as they do on this one. -/
theorem length_keysOf_of_agree {r r' : Registry} {key : String}
    (agree : ∀ k, k ≠ key → r'.active? k = r.active? k) (id : ServiceId) :
    (r'.keysOf id).length + (if r.active? key = some id then 1 else 0) =
      (r.keysOf id).length + (if r'.active? key = some id then 1 else 0) := by
  have distinct (r : Registry) : (r.keysOf id).Nodup := nodup_eraseDups _
  have others (k : String) (other : k ≠ key) : k ∈ r'.keysOf id ↔ k ∈ r.keysOf id := by
    rw [mem_keysOf, mem_keysOf, agree k other]
  simpa only [mem_keysOf] using length_add_of_agree (distinct r') (distinct r) key others

/-! ### The calls of stepping in -/

theorem count_begin_steppingIn (p : Pool) (id i : ServiceId) (predecessor : Option ServiceId) :
    (steppingIn p id predecessor).count (.call i .begin) = if id = i then 1 else 0 := by
  cases predecessor <;> simp [steppingIn, List.count_cons]

theorem count_finish_steppingIn (p : Pool) (id i : ServiceId) (predecessor : Option ServiceId) :
    (steppingIn p id predecessor).count (.call i .finish) =
      if predecessor = some i then 1 else 0 := by
  cases predecessor <;> simp [steppingIn, List.count_cons]

theorem count_steppingBack (p : Pool) (id j i : ServiceId) :
    (steppingBack p id j).count (.call i .begin) = (steppingBack p id j).count (.call i .finish) := by
  simp [steppingBack, rollingBack, count_begin_steppingIn, count_finish_steppingIn, Nat.add_comm]

end Registry

namespace Event

/-- How often a service is called in one way. -/
def calls (e : Event) (id : ServiceId) (c : Call) : Nat := e.outcome.entries.count (.call id c)

/-- The service has begun and is neither active nor finished: it was refused, or it came back for a
newcomer that failed and could not be used itself. -/
def strands (e : Event) (id : ServiceId) : Bool :=
  e.refused && e.id == id || e.lost && e.previous == some id

end Event

/-- What a service has begun in a call is finished in it, unless the key is won or lost by the
service, or the service is stranded. -/
theorem Registry.Course.balance {r : Registry} {p : Pool} {key : String} {id : ServiceId}
    {q : Registry.Provided} (course : Registry.Course r p key id q) (i : ServiceId) :
    let e : Event := ⟨key, id, r.active? key, q.outcome⟩
    e.calls i .begin + (if r.active? key = some i then 1 else 0) =
      e.calls i .finish + (if q.registry.active? key = some i then 1 else 0) +
        (if e.strands i = true then 1 else 0) := by
  cases course with
  | unchanged active => simp [Event.calls, Event.strands]
  | installed inactive usable =>
    simp [Event.calls, Event.strands, count_begin_steppingIn, count_finish_steppingIn, active?_insert,
      Nat.add_comm]
  | refused vacant unusable =>
    simp [Event.calls, Event.strands, Event.refused, Event.lost, count_begin_steppingIn,
      count_finish_steppingIn, irreplaceable, vacant]
  | rolledBack j active other unusable usable =>
    simp [Event.calls, Event.strands, count_steppingBack]
  | lost j active other unusable useless =>
    simp [Event.calls, Event.strands, Event.refused, Event.lost, count_steppingBack, nothingLeft,
      active, active?_erase]

namespace Run

/-- How often a service was called in one way. -/
def calls (s : Run) (id : ServiceId) (c : Call) : Nat :=
  s.log.foldl (fun earlier e => earlier + e.calls id c) 0

/-- How often a service was stranded. -/
def stranded (s : Run) (id : ServiceId) : Nat := s.log.countP (·.strands id)

theorem calls_step (s : Run) (w : Swap) (id : ServiceId) (c : Call) :
    (s.step w).calls id c = s.calls id c + (s.event w).calls id c := by
  simp [calls, step]

theorem stranded_step (s : Run) (w : Swap) (id : ServiceId) :
    (s.step w).stranded id = s.stranded id + if (s.event w).strands id = true then 1 else 0 := by
  simp [stranded, step, List.countP_cons]

theorem agree_step (s : Run) (w : Swap) (key : String) (other : key ≠ w.key) :
    (s.step w).registry.active? key = s.registry.active? key := by
  rw [active?_step, Event.standing_of_aside (.inl other.symm)]

theorem balance_step (s : Run) (w : Swap) (id : ServiceId) :
    (s.event w).calls id .begin + (s.registry.keysOf id).length =
      (s.event w).calls id .finish + ((s.step w).registry.keysOf id).length +
        if (s.event w).strands id = true then 1 else 0 := by
  have balance : (s.event w).calls id .begin +
      (if s.registry.active? w.key = some id then 1 else 0) =
        (s.event w).calls id .finish +
          (if (s.step w).registry.active? w.key = some id then 1 else 0) +
          (if (s.event w).strands id = true then 1 else 0) := (s.course w).balance id
  have keys := Registry.length_keysOf_of_agree (s.agree_step w) id
  omega

theorem begun_eq (p : Pool) (ws : List Swap) (id : ServiceId) :
    (of p ws).calls id .begin =
      (of p ws).calls id .finish + ((of p ws).registry.keysOf id).length + (of p ws).stranded id := by
  refine of_induction (fun s => s.calls id .begin =
    s.calls id .finish + (s.registry.keysOf id).length + s.stranded id) rfl (fun s w ih => ?_) ws
  have balance := s.balance_step w id
  rw [calls_step, calls_step, stranded_step]
  omega

/-- A service has begun as often as it was finished, is active, or was stranded; so the calls that
it has received are in balance just as long as no call has stranded it. -/
theorem begun_eq_iff (p : Pool) (ws : List Swap) (id : ServiceId) :
    (of p ws).calls id .begin =
        (of p ws).calls id .finish + ((of p ws).registry.keysOf id).length + (of p ws).stranded id ∧
      ((of p ws).calls id .begin =
          (of p ws).calls id .finish + ((of p ws).registry.keysOf id).length ↔
        ∀ e ∈ (of p ws).log, e.strands id = false) := by
  have begun := begun_eq p ws id
  refine ⟨begun, ?_⟩
  rw [begun, Nat.add_eq_left, stranded, List.countP_eq_zero]
  simp only [Bool.not_eq_true]

/-- The first service that is provided is refused and stays begun, and so does one that has come back
in vain. -/
theorem begun_in_vain :
    let refused := of {} [⟨readingKey, 0, fun _ => false⟩]
    let lost := of {} [⟨readingKey, 0, fun _ => true⟩, ⟨readingKey, 1, fun _ => false⟩]
    (refused.calls 0 .begin = 1 ∧ refused.calls 0 .finish = 0 ∧
      refused.registry.active? readingKey = none) ∧
    (lost.calls 0 .begin = 2 ∧ lost.calls 0 .finish = 1 ∧
      lost.registry.active? readingKey = none) := by
  decide

end Run
end TabMarkup.Service
