import TabMarkup.Service.Registry

/-!
The five courses that providing a service may take. A call asks the newcomer whether it can be used,
and then at most its predecessor, so a course is fixed by what was active and by these two answers.
-/
namespace TabMarkup.Service

namespace Pool
variable (p : Pool) (id i : ServiceId) (predecessor : Option ServiceId)

@[simp] theorem service_update (f : Service → Service) :
    (p.update id f).service i = if i = id then f (p.service i) else p.service i := rfl

/-! Stepping in changes configurations only. -/

section Kept
variable {α : Type} (view : Service → α)

theorem keeps_update {f : Service → Service} (kept : ∀ s, view (f s) = view s) :
    view ((p.update id f).service i) = view (p.service i) := by
  rw [service_update]
  split
  · exact kept _
  · rfl

theorem keeps_stepIn (kept : ∀ s config, view { s with config } = view s) :
    view ((p.stepIn id predecessor).service i) = view (p.service i) := by
  have finished : view ((predecessor.elim p p.finish).service i) = view (p.service i) := by
    cases predecessor with
    | none => rfl
    | some j => exact p.keeps_update j i view fun s => kept s _
  calc view ((p.stepIn id predecessor).service i)
    _ = view (((predecessor.elim p p.finish).begin id).service i) :=
      keeps_update _ id i view fun s => kept s _
    _ = view ((predecessor.elim p p.finish).service i) := keeps_update _ id i view fun s => kept s _
    _ = view (p.service i) := finished

end Kept

@[simp] theorem kind_stepIn : ((p.stepIn id predecessor).service i).kind = (p.service i).kind :=
  p.keeps_stepIn id i predecessor (·.kind) fun _ _ => rfl

@[simp] theorem usable_stepIn :
    ((p.stepIn id predecessor).service i).usable = (p.service i).usable :=
  p.keeps_stepIn id i predecessor (·.usable) fun _ _ => rfl

/-- A newcomer steps in, and its predecessor steps in for it again. -/
def stepBack (id i : ServiceId) : Pool := (p.stepIn id (some i)).stepIn i (some id)

end Pool

namespace Registry

/-- The journal of a newcomer that cannot be used and of the return of its predecessor. -/
def steppingBack (p : Pool) (id i : ServiceId) : Array Entry :=
  (steppingIn p id (some i)).push (rollingBack (p.service id).kind (p.service i).kind) ++
    steppingIn p i (some id)

/-- What a call of `provide` comes to. -/
inductive Course (r : Registry) (p : Pool) (key : String) (id : ServiceId) : Provided → Prop where
  | unchanged (active : r.active? key = some id) :
    Course r p key id ⟨r, p, ⟨.ok .unchanged, #[]⟩⟩
  | installed (inactive : r.active? key ≠ some id) (usable : (p.service id).usable = true) :
    Course r p key id ⟨⟨r.active.insert key id⟩, p.stepIn id (r.active? key),
      ⟨.ok .installed, steppingIn p id (r.active? key)⟩⟩
  | refused (vacant : r.active? key = none) (unusable : (p.service id).usable = false) :
    Course r p key id ⟨r, p.stepIn id none,
      fail (.service (.noUsableService (p.service id).kind)),
      (steppingIn p id none).push (irreplaceable (p.service id).kind)⟩
  | rolledBack (i : ServiceId) (active : r.active? key = some i) (other : i ≠ id)
      (unusable : (p.service id).usable = false) (usable : (p.service i).usable = true) :
    Course r p key id ⟨r, p.stepBack id i, ⟨.ok .rolledBack, steppingBack p id i⟩⟩
  | lost (i : ServiceId) (active : r.active? key = some i) (other : i ≠ id)
      (unusable : (p.service id).usable = false) (useless : (p.service i).usable = false) :
    Course r p key id ⟨⟨r.active.erase key⟩, p.stepBack id i,
      fail (.service (.rollbackUnusable (p.service id).kind)),
      (steppingBack p id i).push (nothingLeft (p.service i).kind key)⟩

theorem course (r : Registry) (p : Pool) (key : String) (id : ServiceId) :
    Course r p key id (r.provide p key id) := by
  by_cases active : r.active? key = some id
  · have ends : r.provide p key id = ⟨r, p, ⟨.ok .unchanged, #[]⟩⟩ := by
      simp [provide, isActive, active]
      rfl
    exact ends ▸ .unchanged active
  have inactive : r.isActive key id = false := by simp [isActive, active]
  cases usable : (p.service id).usable with
  | true => simpa [provide, inactive, usable] using Course.installed active usable
  | false =>
    cases previous : r.active? key with
    | none => simpa [provide, inactive, usable, previous] using Course.refused previous usable
    | some i =>
      have other : i ≠ id := fun same => active (same ▸ previous)
      cases back : (p.service i).usable with
      | true =>
        have ends : r.provide p key id =
            ⟨r, p.stepBack id i, ⟨.ok .rolledBack, steppingBack p id i⟩⟩ := by
          simp [provide, inactive, usable, previous, back, steppingBack, Pool.stepBack, steppingIn]
        exact ends ▸ .rolledBack i previous other usable back
      | false =>
        have ends : r.provide p key id =
            ⟨⟨r.active.erase key⟩, p.stepBack id i,
              fail (.service (.rollbackUnusable (p.service id).kind)),
              (steppingBack p id i).push (nothingLeft (p.service i).kind key)⟩ := by
          simp [provide, inactive, usable, previous, back, steppingBack, Pool.stepBack, steppingIn]
        exact ends ▸ .lost i previous other usable back

end Registry
end TabMarkup.Service
