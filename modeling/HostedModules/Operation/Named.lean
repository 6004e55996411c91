/-
HostedModules.Operation.Named — operations as callers ask for them.

Arguments are checked before anything else happens, so that a call with a bad
argument leaves no trace.

* `Call` — an operation with the arguments that the caller gave
* `Call.check` — the operation, or the complaint about an argument
* `Call.named` — the call of a method with arguments by name (`get_modules` to
  `get_hostname` of `ModulesService`)
-/
import HostedModules.Arguments
import HostedModules.Operation

namespace HostedModules

/-- An operation as the caller asks for it. -/
inductive Call where
  | modules
  | versions (moduleName : Value)
  | defaultVersion (moduleName : Value)
  | countInstances (target : Target)
  | setInstances (count : Value) (target : Target)
  | start (target : Target)
  | stop (target : Target)
  | versionHostname (target : Target)
  | instanceHostname (number : Value) (target : Target)
  /-- The hostname of an instance if one is given, else that of the version. -/
  | hostname (number : Value) (target : Target)

namespace Call

/-- An instance count is an integer and nothing else. -/
def checkCount (count : Value) : Except Failure Int :=
  match count with
  | .int n => .ok n
  | _ => .error (.misfit "Instances must be an int, not " count)

/-- The operation on one instance. -/
def checkInstance (number : Value) (target : Target) :
    Except Failure Operation :=
  (Instance.parse number).map fun n => .instanceHostname n target

/-- The operation that is asked for, its arguments checked. -/
def check : Call → Except Failure Operation
  | .modules => .ok .modules
  | .versions moduleName => .ok (.versions moduleName)
  | .defaultVersion moduleName => .ok (.defaultVersion moduleName)
  | .countInstances target => .ok (.countInstances target)
  | .setInstances count target =>
      (checkCount count).map fun n => .setInstances n target
  | .start target => .ok (.start target)
  | .stop target => .ok (.stop target)
  | .versionHostname target => .ok (.versionHostname target)
  | .instanceHostname number target => checkInstance number target
  | .hostname .null target => .ok (.versionHostname target)
  | .hostname number target => checkInstance number target

/-! ## Calls by name -/

/-- The call of a method, by the name of the method: what it takes, and what is
asked for. -/
def signature? : String → Option (Signature Call)
  | "get_modules" => some ⟨[], modules⟩
  | "get_versions" => some ⟨[.optional "module"], versions⟩
  | "get_default_version" => some ⟨[.optional "module"], defaultVersion⟩
  | "get_num_instances" =>
      some ⟨Parameter.target, fun m v => countInstances ⟨m, v⟩⟩
  | "set_num_instances" =>
    some ⟨.required "instances" :: Parameter.target,
      fun n m v => setInstances n ⟨m, v⟩⟩
  | "start_version" => some ⟨Parameter.target, fun m v => start ⟨m, v⟩⟩
  | "stop_version" => some ⟨Parameter.target, fun m v => stop ⟨m, v⟩⟩
  | "get_version_hostname" =>
      some ⟨Parameter.target, fun m v => versionHostname ⟨m, v⟩⟩
  | "get_instance_hostname" =>
    some ⟨.required "instance" :: Parameter.target,
      fun n m v => instanceHostname n ⟨m, v⟩⟩
  | "get_hostname" =>
    some ⟨Parameter.target.append [.optional "instance"],
      fun m v n => hostname n ⟨m, v⟩⟩
  | _ => none

/-- The call of the method of this name with these arguments.  There may be no
such method, and the arguments may not fit it. -/
def named (name : String) (arguments : List (String × Value)) :
    Except Failure Call :=
  Signature.apply (signature? name) [] arguments

end Call

end HostedModules
