/-
HostedModules.Registry — services, and the one that a process shares.

The shared service is made from the environment when it is first asked for, and
may be replaced or dropped.

* `Service` — the project, and whether there is a legacy channel
  (`ModulesService`)
* `Registry.fetch` — the shared service (`get_service`)
* `Registry.install`, `Registry.drop` — replace it, or have the next request
  make a fresh one (`set_service`)
-/
import HostedModules.Environment

namespace HostedModules

/-- The facade in front of both services (`ModulesService`). -/
structure Service where
  project : String
  hasChannel : Bool

namespace Service

/-- A service for a project, or for the project of the environment if none is
given. -/
def make (project : Option String) (env : Environment) (hasChannel : Bool) :
    Except Failure Service :=
  match project.filter fun name => !name.isEmpty with
  | some name => .ok ⟨name, hasChannel⟩
  | none => env.project.map fun name => ⟨name, hasChannel⟩

/-- A service as messages quote it. -/
def quoted (service : Service) : String :=
  "<ModulesService: " ++ Text.quoted service.project ++ ">"

end Service

/-- The shared service, and how many services have been shared so far. -/
structure Registry where
  /-- The shared service and its number. -/
  current : Option (Nat × Service)
  count : Nat

namespace Registry

/-- No service has been shared yet. -/
def empty : Registry := ⟨none, 0⟩

/-- The registry with a new service in it. -/
def share (registry : Registry) (service : Service) : Registry :=
  ⟨some (registry.count, service), registry.count + 1⟩

/-- Put a service in the place of the shared one, made for a project or else
from the environment (`set_service`). -/
def install (registry : Registry) (project : Option String)
    (env : Environment) :
    Except Failure ((Nat × Service) × Registry) :=
  (Service.make project env false).map fun service =>
    ((registry.count, service), registry.share service)

/-- Forget the shared service. -/
def drop (registry : Registry) : Registry := { registry with current := none }

/-- The shared service, made from the environment if there is none
(`get_service`). -/
def fetch (registry : Registry) (env : Environment) :
    Except Failure ((Nat × Service) × Registry) :=
  match registry.current with
  | some entry => .ok (entry, registry)
  | none => registry.install none env

end Registry

end HostedModules
