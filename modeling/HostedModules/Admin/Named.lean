/-
HostedModules.Admin.Named — the administrative service by name.

* `Client.named` — the request of a name, with arguments by place and by name
  (the methods of `AdminClient`)
* `Admin.named` — the operation of a name, with arguments by place
  (`list_services` to `get_instance_hostname`)
-/
import HostedModules.Admin.Operations
import HostedModules.Arguments

namespace HostedModules

/-- The work that some arguments make up, once they are found to fit. -/
def Exchange.named (signature : Option (Signature (Exchange Answer)))
    (placed : List Value) (arguments : List (String × Value)) :
    Exchange Answer := do
  let work ← Exchange.lift (Signature.apply signature placed arguments)
  work

/-- The status that a value names. -/
def ServingStatus.ofValue? : Value → Option ServingStatus
  | .text name => [serving, stopped].find? fun status => status.name = name
  | _ => none

/-- The parameters for a version of a service. -/
def Parameter.version : List Parameter :=
  [required "project", required "service", required "version"]

namespace Client

/-- A request by its name: what it takes, and the work that it is. -/
def signature? (client : Client) : String → Option (Signature (Exchange Answer))
  | "get_application" =>
    some ⟨[.required "project"], fun p => .value <$> client.application p⟩
  | "list_services" =>
    some ⟨[.required "project"], fun p => (.value ∘ .list) <$>
      client.services p⟩
  | "get_service" =>
    some ⟨[.required "project", .required "service"],
      fun p s => .value <$> client.service p s⟩
  | "list_versions" =>
    some ⟨[.required "project", .required "service"],
      fun p s => (.value ∘ .list) <$> client.versions p s⟩
  | "get_version" =>
    some ⟨Parameter.version.append [.optional "view"],
      fun p s v view => .value <$> client.version p s v view⟩
  | "patch_version" =>
    some ⟨Parameter.version.append [.required "body", .required "update_mask"],
      fun p s v body mask => .value <$> client.patchVersion p s v body mask⟩
  | _ => none

/-- The request of this name with these arguments.  There may be no such
request, and the arguments may not fit it. -/
def named (client : Client) (name : String) (placed : List Value)
    (arguments : List (String × Value)) : Exchange Answer :=
  Exchange.named (client.signature? name) placed arguments

end Client

namespace Admin

/-- Start or stop serving a version, as the value says that stands for a
status. -/
def setServingTo (client : Client) (project service version status : Value) :
    Exchange ActionResult :=
  match ServingStatus.ofValue? status with
  | some status => setServing client project service version status
  | none => throw .wrongType

/-- An operation by its name: what it takes, and the work that it is. -/
def signature? (client : Client) : String → Option (Signature (Exchange Answer))
  | "list_services" =>
    some ⟨[.required "project"], fun p => .members <$> listServices client p⟩
  | "list_versions" =>
    some ⟨[.required "project", .required "service"],
      fun p s => .members <$> listVersions client p s⟩
  | "get_default_version" =>
    some ⟨[.required "project", .required "service"],
      fun p s => (.value ∘ .text) <$> defaultVersion client p s⟩
  | "get_num_instances" =>
    some ⟨Parameter.version, fun p s v => .value <$>
      countInstances client p s v⟩
  | "set_num_instances" =>
    some ⟨Parameter.version.append [.required "instances"],
      fun p s v n => .action <$> setInstances client p s v n⟩
  | "set_serving_status" =>
    some ⟨Parameter.version.append [.required "status"],
      fun p s v status => .action <$> setServingTo client p s v status⟩
  | "get_version_hostname" =>
    some ⟨Parameter.version,
      fun p s v => (.value ∘ .text) <$> versionHostname client p s v⟩
  | "get_instance_hostname" =>
    some ⟨Parameter.version.append [.required "instance"],
      fun p s v n => (.value ∘ .text) <$> instanceHostname client p s v n⟩
  | _ => none

/-- The operation of this name with these arguments.  There may be no such
operation, and the arguments may not fit it. -/
def named (client : Client) (name : String) (placed : List Value) :
    Exchange Answer :=
  Exchange.named (signature? client name) placed []

end Admin
end HostedModules
