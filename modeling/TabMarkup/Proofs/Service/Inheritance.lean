import Mathlib.Data.List.Induction
import Mathlib.Logic.Function.Basic
import TabMarkup.Proofs.Service.History

/-!
How configurations are handed on. Stock services can always be used, so each that is provided becomes
active. One that was created with a configuration keeps it, and one that was not takes over that of
the service before it, whatever it may have held when it was active earlier. What is in force is then
the configuration that came last with a service.
-/
namespace TabMarkup.Service

/-- The stock service as it is created, with a configuration of its own or without one. -/
def created : Option Config → Service
  | none => standard
  | some own => configured own

namespace Pool
variable {given : ServiceId → Option Config} {held : ServiceId → Config}

/-- Stock services as they are created. -/
def fresh (given : ServiceId → Option Config) : Pool where
  service i := created (given i)

/-- Stock services, and the configuration that each of them holds by now. -/
def stocked (given : ServiceId → Option Config) (held : ServiceId → Config) : Pool where
  service i := { created (given i) with config := held i }

theorem fresh_eq_stocked (given : ServiceId → Option Config) :
    fresh given = stocked given fun i => (given i).getD {} := by
  have same (own : Option Config) : created own = { created own with config := own.getD {} } := by
    cases own <;> rfl
  exact congrArg (Pool.mk · 0) (funext fun i => same (given i))

theorem usable_stocked (i : ServiceId) : ((stocked given held).service i).usable = true := by
  have usable (own : Option Config) : (created own).usable = true := by cases own <;> rfl
  exact usable (given i)

theorem answering_stocked :
    (stocked given held).answering (fun _ => true) = stocked given held := by
  have same (i : ServiceId) :
      { (stocked given held).service i with usable := true } = (stocked given held).service i := by
    rw [← @usable_stocked given held i]
  exact congrArg (Pool.mk · 0) (funext same)

theorem update_stocked (id : ServiceId) (f : Service → Service) (config : Config)
    (changed : f ((stocked given held).service id) = { created (given id) with config }) :
    (stocked given held).update id f = stocked given (Function.update held id config) := by
  refine congrArg (Pool.mk · 0) (funext fun i => ?_)
  by_cases same : i = id
  · subst same
    rw [if_pos rfl, changed, Function.update_self]
  · rw [if_neg same, Function.update_of_ne same]
    rfl

theorem finish_stocked (id : ServiceId) : (stocked given held).finish id = stocked given held := by
  have finished (own : Option Config) (config : Config) : (created own).onFinish config = config := by
    cases own <;> rfl
  rw [finish, update_stocked id _ (held id), Function.update_eq_self]
  exact congrArg (fun config => { created (given id) with config }) (finished _ _)

theorem begin_stocked (id : ServiceId) : (stocked given held).begin id = stocked given held := by
  have begun (own : Option Config) (config : Config) : (created own).onBegin config = config := by
    cases own <;> rfl
  rw [begin, update_stocked id _ (held id), Function.update_eq_self]
  exact congrArg (fun config => { created (given id) with config }) (begun _ _)

/-- What a service holds after it has replaced a predecessor: what it was created with, and else
what the predecessor holds. -/
def handedOn (given : ServiceId → Option Config) (held : ServiceId → Config) (id : ServiceId)
    (predecessor : Option ServiceId) : Config :=
  match given id with
  | some _ => held id
  | none => (predecessor.map held).getD (held id)

theorem stepIn_stocked (id : ServiceId) (predecessor : Option ServiceId) :
    (stocked given held).stepIn id predecessor =
      stocked given (Function.update held id (handedOn given held id predecessor)) := by
  have adopted (own : Option Config) (found : Option Interface) (config : Config) :
      (created own).adopt found config =
        own.elim (found.elim config Interface.config) fun _ => config := by
    cases own <;> rfl
  have finished : predecessor.elim (stocked given held) (stocked given held).finish =
      stocked given held := by
    cases predecessor with
    | none => rfl
    | some i => exact finish_stocked i
  rw [stepIn, finished, begin_stocked, takeOver,
    update_stocked id _ (handedOn given held id predecessor)]
  refine congrArg (fun config => { created (given id) with config }) ((adopted _ _ _).trans ?_)
  unfold handedOn
  cases given id with
  | some own => rfl
  | none => cases predecessor <;> rfl

end Pool

/-! ### Runs -/

/-- A call that provides a stock service; stock services can always be used. -/
def Swap.stock (key : String) (id : ServiceId) : Swap := ⟨key, id, fun _ => true⟩

/-- The configuration that came last with one of the services, and before all the default one. -/
def latest (given : ServiceId → Option Config) (ids : List ServiceId) : Config :=
  (ids.reverse.findSome? given).getD {}

theorem latest_concat (given : ServiceId → Option Config) (ids : List ServiceId) (id : ServiceId) :
    latest given (ids ++ [id]) = (given id).getD (latest given ids) := by
  unfold latest
  rw [List.reverse_concat, List.findSome?_cons]
  cases given id <;> rfl

/-- What a run has come to after some stock services were provided for a key. A service that was not
provided is as it was created; one that is not active any more may hold anything. -/
structure Run.Inherits (given : ServiceId → Option Config) (key : String) (ids : List ServiceId)
    (held : ServiceId → Config) (s : Run) : Prop where
  pool : s.pool = .stocked given held
  own : ∀ i, ∀ config ∈ given i, held i = config
  vacant : ids = [] → ∀ i, given i = none → held i = {}
  active : s.registry.active? key = ids.getLast?
  inForce : ∀ i ∈ ids.getLast?, held i = latest given ids

namespace Run
variable {given : ServiceId → Option Config} {key : String} {ids : List ServiceId}
  {held : ServiceId → Config} {s : Run}

theorem Inherits.start (given : ServiceId → Option Config) (key : String) :
    Inherits given key [] (fun i => (given i).getD {}) { pool := .fresh given } where
  pool := Pool.fresh_eq_stocked given
  own i config own := by rw [Option.mem_def.1 own]; rfl
  vacant _ i without := by rw [without]; rfl
  active := rfl
  inForce i last := by cases last

/-- The newcomer holds what is in force, be it its own or that of its predecessor. -/
theorem Inherits.handedOn (h : Inherits given key ids held s) (id : ServiceId) :
    Pool.handedOn given held id ids.getLast? = latest given (ids ++ [id]) := by
  rw [latest_concat, Pool.handedOn]
  cases own : given id with
  | some config => exact h.own id config own
  | none =>
    cases last : ids.getLast? with
    | some i => exact h.inForce i last
    | none =>
      obtain rfl := List.getLast?_eq_none_iff.1 last
      exact h.vacant rfl id own

theorem Inherits.step (h : Inherits given key ids held s) (id : ServiceId) :
    ∃ held', Inherits given key (ids ++ [id]) held' (s.step (.stock key id)) := by
  have answered : s.pool.answering (Swap.stock key id).usable = .stocked given held := by
    rw [h.pool]
    exact Pool.answering_stocked
  have course : Registry.Course s.registry (.stocked given held) key id (s.call (.stock key id)) :=
    answered ▸ s.course (.stock key id)
  have inForce := h.handedOn id
  rw [← h.active] at inForce
  unfold Run.step
  generalize s.call (.stock key id) = q at course ⊢
  cases course with
  | unchanged active =>
    have kept : Pool.handedOn given held id (some id) = held id := by
      unfold Pool.handedOn
      cases given id <;> rfl
    rw [active, kept] at inForce
    exact ⟨held, rfl, h.own, by simp, by simpa using active, by simpa using inForce⟩
  | installed inactive usable =>
    refine ⟨_, Pool.stepIn_stocked id _, fun i config own => ?_, by simp, ?_, ?_⟩
    · by_cases same : i = id
      · subst same
        rw [Function.update_self, Pool.handedOn, own]
        exact h.own i config own
      · rw [Function.update_of_ne same]
        exact h.own i config own
    · simp [Registry.active?_insert]
    · simpa using inForce
  | refused vacant unusable => simp [Pool.usable_stocked] at unusable
  | rolledBack i active other unusable usable => simp [Pool.usable_stocked] at unusable
  | lost i active other unusable useless => simp [Pool.usable_stocked] at unusable

theorem exists_inherits (given : ServiceId → Option Config) (key : String) (ids : List ServiceId) :
    ∃ held, Inherits given key ids held (of (.fresh given) (ids.map (.stock key))) := by
  induction ids using List.reverseRecOn with
  | nil => exact ⟨_, .start given key⟩
  | append_singleton ids id ih =>
    obtain ⟨held, inherits⟩ := ih
    obtain ⟨held', next⟩ := inherits.step id
    refine ⟨held', ?_⟩
    rw [of, List.map_append, List.foldl_append]
    exact next

/-- After every call the service that was provided is active, and it holds the configuration that came
last with one of the services provided until then, or else the default one. -/
theorem config_active (given : ServiceId → Option Config) (key : String) (ids : List ServiceId)
    (id : ServiceId) :
    let s := of (.fresh given) ((ids ++ [id]).map (.stock key))
    s.registry.active? key = some id ∧
      (s.pool.service id).config = latest given (ids ++ [id]) := by
  obtain ⟨held, inherits⟩ := exists_inherits given key (ids ++ [id])
  have last : (ids ++ [id]).getLast? = some id := by simp
  refine ⟨inherits.active.trans last, ?_⟩
  rw [inherits.pool]
  exact inherits.inForce id last

/-- A service without a configuration of its own comes back, and holds that of the one before it. -/
example :
    let given : ServiceId → Option Config := fun i => if i = 1 then some { maxDepth := 5 } else none
    (((of (.fresh given) ([0, 1, 2].map (.stock readingKey))).pool.service 0).config.maxDepth = 32) ∧
    (((of (.fresh given) ([0, 1, 2, 0].map (.stock readingKey))).pool.service 0).config.maxDepth = 5) := by
  decide

end Run
end TabMarkup.Service
