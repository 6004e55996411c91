/-
HostedModules.Channel.Named — calls on the legacy channel by name.

* `Channel.Command.named` — the call of this name with arguments by name
  (`get_modules` to `get_hostname`)
-/
import HostedModules.Arguments
import HostedModules.Channel.Command

namespace HostedModules
namespace Channel
namespace Command

/-- A call by its name: what it takes, and what is asked of the channel. -/
def signature? : String → Option (Signature Command)
  | "get_modules" => some ⟨[], getModules⟩
  | "get_versions" => some ⟨[.optional "module"], getVersions⟩
  | "get_default_version" => some ⟨[.optional "module"], getDefaultVersion⟩
  | "get_num_instances" => some ⟨Parameter.target, getNumInstances⟩
  | "set_num_instances" =>
    some ⟨.required "instances" :: Parameter.target, setNumInstances⟩
  | "start_module" => some ⟨Parameter.target, startModule⟩
  | "stop_module" => some ⟨Parameter.target, stopModule⟩
  | "get_hostname" =>
      some ⟨Parameter.target.append [.optional "instance"], getHostname⟩
  | _ => none

/-- The call of this name with these arguments.  There may be no such call, and
the arguments may not fit it. -/
def named (name : String) (arguments : List (String × Value)) :
    Except Failure Command :=
  Signature.apply (signature? name) [] arguments

end Command
end Channel
end HostedModules
