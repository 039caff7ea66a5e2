import TabMarkup.Proofs.Service.Provide
import TabMarkup.Reading.Parse

/-!
What a rollback leaves behind. The service that comes back is the one that was active, but it has
been finished, has begun again, and has taken over from the newcomer that failed; so it keeps its
configuration if it is steadfast, and the stock service ends up with that of the newcomer.
-/
namespace TabMarkup

namespace Service

/-- The configuration of a service that comes back after a newcomer had taken its place. -/
def returned (s newcomer : Service) : Config :=
  s.adopt (some newcomer.toInterface) (s.onBegin (s.onFinish s.config))

namespace Pool
variable (p : Pool) {id i : ServiceId}

end Pool

namespace Registry

end Registry
end Service

namespace Scan.Setting

/-- The setting without the services that its scan does not call. -/
def alone (g : Setting) : Setting :=
  { g with context :=
    { g.context with pool := { service := fun _ => g.service }, services := .empty } }

-- Both sides unfold to the same steps: of the pool a step asks for the service that reads.
theorem scan_alone (g : Setting) (text : String) : scan g text = scan g.alone text := rfl

end Scan.Setting

namespace Context
open Service

/-- A pool with the stock service as 0 and a service of little depth, not usable, as 1. -/
def shallowPool : Pool where
  service i := if i = 0 then .standard else { kind := "u", usable := false, config := { maxDepth := 9 } }

/-- A context that reads with a service of its own configuration, and knows another as 1. -/
def settled : Context where
  pool := { service := fun i => if i = 0 then .configured { maxDepth := 5 } else shallowPool.service i }
  services := ⟨Table.insert {} readingKey 0⟩

end Context
end TabMarkup
