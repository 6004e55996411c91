/-
HostedModules.Operation — the operations on the modules of an application.

* `Target` — a module and a version; what is `null` was left out by the caller
* `Operation` — the operations, their arguments checked
* `Operation.resolve` — an operation with the current module and version in
  place of what was left out
* `Operation.suppression?` — the message of an operation for which "nothing to
  do" is a success
* `Operation.administer` — on the administrative service, everything left out
  already filled in
* `Operation.command` — on the legacy channel, which fills in what was left out
  itself
* `Operation.checkSpelling` — what the channel gets as text has one
-/
import HostedModules.Admin.Operations
import HostedModules.Channel.Command
import HostedModules.Context

namespace HostedModules

/-- A module and one of its versions, either of which may have been left out. -/
structure Target where
  moduleName : Value
  version : Value

namespace Target

/-- A name that was given, or else the current one. -/
def nameOr (given : Value) (current : Except Failure String) :
    Except Failure Value :=
  match given with
  | .null => current.map .text
  | given => .ok given

/-- The module that was given, or else the current one. -/
def resolveModule (bindings : Bindings) (moduleName : Value) :
    Except Failure Value :=
  nameOr moduleName bindings.currentModule

/-- The target with the current module and version in place of what was left
out. -/
def resolve (bindings : Bindings) (target : Target) :
    Except Failure Target := do
  let moduleName ← resolveModule bindings target.moduleName
  let version ← nameOr target.version bindings.currentVersion
  pure ⟨moduleName, version⟩

end Target

/-- An operation on the modules of an application. -/
inductive Operation where
  /-- The names of all modules. -/
  | modules
  /-- The names of all versions of a module. -/
  | versions (moduleName : Value)
  /-- The version of a module that receives the most traffic. -/
  | defaultVersion (moduleName : Value)
  /-- The instance count of a manually scaled version. -/
  | countInstances (target : Target)
  /-- Change the instance count of a manually scaled version. -/
  | setInstances (count : Int) (target : Target)
  /-- Start serving a version. -/
  | start (target : Target)
  /-- Stop serving a version. -/
  | stop (target : Target)
  /-- The hostname of a version. -/
  | versionHostname (target : Target)
  /-- The hostname of one instance of a manually scaled version. -/
  | instanceHostname (number : Nat) (target : Target)

namespace Operation

/-- The label of an operation, in logs and for the client that carries it
out. -/
def label : Operation → String
  | .modules => "get_modules"
  | .versions _ => "get_versions"
  | .defaultVersion _ => "get_default_version"
  | .countInstances _ => "get_num_instances"
  | .setInstances _ _ => "set_num_instances"
  | .start _ => "start_version"
  | .stop _ => "stop_version"
  | .versionHostname _ => "get_version_hostname"
  | .instanceHostname _ _ => "get_instance_hostname"

/-- The operation with the current module and version in place of what was left
out. -/
def resolve (bindings : Bindings) : Operation → Except Failure Operation
  | .modules => .ok .modules
  | .versions moduleName =>
      (Target.resolveModule bindings moduleName).map .versions
  | .defaultVersion moduleName =>
      (Target.resolveModule bindings moduleName).map .defaultVersion
  | .countInstances target => (target.resolve bindings).map .countInstances
  | .setInstances count target =>
      (target.resolve bindings).map (.setInstances count)
  | .start target => (target.resolve bindings).map .start
  | .stop target => (target.resolve bindings).map .stop
  | .versionHostname target => (target.resolve bindings).map .versionHostname
  | .instanceHostname number target =>
      (target.resolve bindings).map (.instanceHostname number)

/-- The message that is logged when a start or stop finds nothing to do, which
is then no failure. -/
def suppression? : Operation → Option String
  | .start _ =>
      some "Attempted to start an already started module version, continuing"
  | .stop _ =>
      some "Attempted to stop an already stopped module version, continuing"
  | _ => none

/-! ## Backends -/

/-- Carry an operation out on the administrative service. -/
def administer (client : Client) (project : Value) : Operation → Exchange Answer
  | .modules => .members <$> Admin.listServices client project
  | .versions moduleName =>
      .members <$> Admin.listVersions client project moduleName
  | .defaultVersion moduleName =>
    (fun name => .value (.text name)) <$>
      Admin.defaultVersion client project moduleName
  | .countInstances target =>
    .value <$> Admin.countInstances client project target.moduleName
      target.version
  | .setInstances count target =>
    .action <$> Admin.setInstances client project target.moduleName
      target.version (.int count)
  | .start target =>
    .action <$> Admin.setServing client project target.moduleName target.version .serving
  | .stop target =>
    .action <$> Admin.setServing client project target.moduleName target.version .stopped
  | .versionHostname target =>
    (fun name => .value (.text name)) <$>
      Admin.versionHostname client project target.moduleName target.version
  | .instanceHostname number target =>
    (fun name => .value (.text name)) <$>
      Admin.instanceHostname client project target.moduleName target.version
        (.int number)

/-- The channel gets the number of an instance as text, and a number that is too
long has none. -/
def checkSpelling : Operation → Except Failure Unit
  | .instanceHostname number _ => (Value.int number).spelled.map fun _ => ()
  | _ => .ok ()

/-- The call on the legacy channel that carries an operation out. -/
def command : Operation → Channel.Command
  | .modules => .getModules
  | .versions moduleName => .getVersions moduleName
  | .defaultVersion moduleName => .getDefaultVersion moduleName
  | .countInstances target => .getNumInstances target.moduleName target.version
  | .setInstances count target =>
      .setNumInstances (.int count) target.moduleName target.version
  | .start target => .startModule target.moduleName target.version
  | .stop target => .stopModule target.moduleName target.version
  | .versionHostname target =>
      .getHostname target.moduleName target.version .null
  | .instanceHostname number target =>
    .getHostname target.moduleName target.version (.text (toString number))

end Operation

end HostedModules
