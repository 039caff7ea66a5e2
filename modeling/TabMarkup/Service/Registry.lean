import TabMarkup.Table
import TabMarkup.Journal
import TabMarkup.Service.Basic

/-!
The registry of active services, one for each key. Providing a service finishes the one
before it and begins the new one; if that cannot be used, the one before is begun again,
and if that cannot be used either, the key is left without a service.
-/
namespace TabMarkup.Service

/-- What became of a service that was provided. -/
inductive Provision where
  | unchanged
  | installed
  | rolledBack
  deriving DecidableEq, Repr

def Provision.text : Provision → String
  | unchanged => "unchanged"
  | installed => "installed"
  | rolledBack => "rolled_back"

structure Registry where
  active : Table String ServiceId := {}

/-- The key of the service that reads documents. -/
def readingKey : String := "skd"

namespace Registry

def empty : Registry := {}

def active? (r : Registry) (key : String) : Option ServiceId := r.active.get? key

def get (r : Registry) (key : String) : Except Error ServiceId :=
  match r.active? key with
  | some id => .ok id
  | none => fail (.service (.missingService key))

def isActive (r : Registry) (key : String) (id : ServiceId) : Bool := r.active? key == some id

/-- A registry and the pool behind it after a service was provided, with the outcome. -/
structure Provided where
  registry : Registry
  pool : Pool
  outcome : Journaled Provision

/-- The journal of a service that steps in for its predecessor. -/
def steppingIn (p : Pool) (id : ServiceId) (predecessor : Option ServiceId) : Array Entry :=
  (predecessor.map fun i => #[Entry.call i .finish]).getD #[] ++
    #[.call id .begin, .call id (.takeOver (predecessor.map fun i => (p.service i).kind))]

def irreplaceable (kind : String) : Entry :=
  .failure ("Service " ++ kind ++ " is not usable and nothing can replace it")

def rollingBack (kind previous : String) : Entry :=
  .warning ("Service " ++ kind ++ " is not usable, rolling back to " ++ previous)

def nothingLeft (previous key : String) : Entry :=
  .failure ("Rollback target " ++ previous ++ " is not usable either, no service left for " ++ key)

/-- Makes a service the active one for a key. -/
def provide (r : Registry) (p : Pool) (key : String) (id : ServiceId) : Provided :=
  if r.isActive key id then ⟨r, p, pure .unchanged⟩
  else
    let previous := r.active? key
    let kind := (p.service id).kind
    let entries := steppingIn p id previous
    let p := p.stepIn id previous
    if (p.service id).usable then ⟨⟨r.active.insert key id⟩, p, ⟨.ok .installed, entries⟩⟩
    else match previous with
      | none =>
        ⟨r, p, fail (.service (.noUsableService kind)), entries.push (irreplaceable kind)⟩
      | some i =>
        let previousKind := (p.service i).kind
        let entries := entries.push (rollingBack kind previousKind) ++ steppingIn p i (some id)
        let p := p.stepIn i (some id)
        if (p.service i).usable then ⟨r, p, ⟨.ok .rolledBack, entries⟩⟩
        else
          ⟨⟨r.active.erase key⟩, p, fail (.service (.rollbackUnusable kind)),
            entries.push (nothingLeft previousKind key)⟩

end Registry
end TabMarkup.Service
