/-
HostedModules.Admin.Operations — what the administrative service is asked to do.

Modules and versions are already known here: no default is filled in.

* `Admin.listServices`, `Admin.listVersions` — the names of all services, and of
  all versions of one
* `Admin.defaultVersion` — the version of a service that receives the most
  traffic
* `Admin.countInstances`, `Admin.setInstances` — the instances of a manually
  scaled version
* `Admin.setServing` — start or stop a version
* `Admin.versionHostname`, `Admin.instanceHostname` — the hostnames of versions
  and instances
-/
import HostedModules.ActionResult
import HostedModules.Admin.Client
import HostedModules.Plumbing

namespace HostedModules

/-- Whether a version is to serve (`ServingStatus`). -/
inductive ServingStatus where
  | serving
  | stopped
deriving DecidableEq, Repr

/-- The name of a serving status. -/
def ServingStatus.name : ServingStatus → String
  | .serving => "SERVING"
  | .stopped => "STOPPED"

namespace Admin

/-- The service that every application starts with. -/
def defaultService : String := "default"

/-! ## Failed requests -/

/-- A temporary failure of the service, or of the way to it. -/
def temporary (opening : String) (failure : Failure) : Failure :=
  .because .transient (failure.quoting opening) failure

/-- A failure of a request with no better category. -/
def rejected (failure : Failure) : Failure :=
  .because .remote (failure.quoting "Admin API request failed: ") failure

/-- The failure that a failing status amounts to.  Status 404 means that the
target does not exist, and 400 that the value sent was refused, where one was
sent. -/
def statusFault (notFound : Failure) (refused : Option Failure)
    (failure : Failure) : Failure :=
  let status := failure.status?.getD 0
  if status = 404 then notFound.following failure
  else
    match refused with
    | some refusal =>
      if status = 400 then refusal.following failure
      else if 500 ≤ status then temporary "Admin API unavailable: " failure
      else rejected failure
    | none =>
      if 500 ≤ status then temporary "Admin API unavailable: " failure
      else rejected failure

/-- The failure that a failed request amounts to (`_translate`).  What is no
failure of a request stays as it is. -/
def translate (notFound : Failure) (refused : Option Failure)
    (failure : Failure) : Failure :=
  if failure.kind.isA .httpStatus then statusFault notFound refused failure
  else if failure.kind.isA .connection || failure.kind.isA .requestTimeout then
    temporary "Admin API unreachable: " failure
  else if failure.kind.isA .request then rejected failure
  else if failure.kind.isA .refresh then
    .because .configuration (failure.quoting "Admin API credentials rejected: ") failure
  else failure

/-! ## What may not be there -/

/-- The project does not exist. -/
def projectNotFound (project : Value) : Failure :=
  .plain .modules ("Project " ++ project.quoted ++ " not found.")

/-- The module does not exist. -/
def moduleNotFound (service : Value) : Failure :=
  .plain .invalidModule ("Module " ++ service.quoted ++ " not found.")

/-- The version of the module does not exist (`_version_not_found`). -/
def versionNotFound (service version : Value) : Failure :=
  .plain .invalidVersion ("Version " ++ version.quoted ++ " of module " ++
    service.quoted ++ " not found.")

/-! ## Lists -/

/-- The members so far with the ids of some records. -/
def idsFrom (members : List Value) : List Value → Except Failure (List Value)
  | [] => .ok members
  | record :: rest =>
    match record.item "id" with
    | .error failure => .error failure
    | .ok id =>
        if id.settable then idsFrom (Value.addMember members id) rest
          else .error .wrongType

/-- The set of the ids of some records. -/
def ids (records : List Value) : Except Failure (List Value) :=
  idsFrom [] records

/-- The names of all services of the application (`list_services`). -/
def listServices (client : Client) (project : Value) :
    Exchange (List Value) := do
  let records ← Exchange.mapFailure (translate (projectNotFound project) none)
    (client.services project)
  Exchange.lift (ids records)

/-- The names of all versions of a service (`list_versions`). -/
def listVersions (client : Client) (project service : Value) :
    Exchange (List Value) := do
  let records ←
    Exchange.mapFailure (translate (moduleNotFound service) none)
      (client.versions project service)
  Exchange.lift (ids records)

/-! ## Traffic -/

/-- The version that the record of a service sends the most traffic to. -/
def chosenVersion (service record : Value) : Except Failure String := do
  let split ← record.get "split"
  let allocations ← (split.orElse (.record [])).get "allocations"
  match ← Traffic.selectDefaultOf allocations with
  | some version => pure version
  | none =>
    throw (.plain .invalidVersion
      ("Could not determine default version for module " ++ service.quoted ++ "."))

/-- The version of a service that receives the most traffic
(`get_default_version`). -/
def defaultVersion (client : Client) (project service : Value) :
    Exchange String := do
  let record ←
    Exchange.mapFailure (translate (moduleNotFound service) none)
      (client.service project service)
  Exchange.lift (chosenVersion service record)

/-! ## Scaling -/

/-- The instance count in the record of a version, `null` unless the version is
scaled by hand. -/
def scaling (record : Value) : Except Failure Value := do
  let manual ← record.get "manualScaling"
  (manual.orElse (.record [])).get "instances"

/-- The instance count of a version, zero unless the version is scaled by hand
(`get_num_instances`). -/
def countInstances (client : Client) (project service version : Value) :
    Exchange Value := do
  let record ← Exchange.mapFailure
    (translate (versionNotFound service version) none)
    (client.version project service version .null)
  Exchange.lift ((scaling record).map fun count => count.orElse (.int 0))

/-- The part of a version that holds its instance count. -/
def scalingMask : String := "manualScaling.instances"

/-- A change of the instance count. -/
def scalingBody (count : Value) : Value :=
  .record [("manualScaling", .record [("instances", count)])]

/-- The instance count was refused. -/
def countRefused (count : Value) : Failure :=
  .plain .invalidInstances ("Invalid instance count " ++ count.quoted ++ ".")

/-- Change the instance count of a manually scaled version
(`set_num_instances`).  A count that cannot be written is not sent. -/
def setInstances (client : Client) (project service version count : Value) :
    Exchange ActionResult := do
  let _ ← Exchange.lift count.spelled
  let _ ← Exchange.mapFailure
    (translate (versionNotFound service version) (some (countRefused count)))
    (client.patchVersion project service version (scalingBody count)
      (.text scalingMask))
  pure (.success (.routine "appmodules.plumbing.admin" "set_num_instances"))

/-! ## Serving -/

/-- The part of a version that holds its serving status. -/
def servingMask : String := "servingStatus"

/-- A change of the serving status. -/
def servingBody (status : ServingStatus) : Value :=
  .record [("servingStatus", .text status.name)]

/-- Start or stop serving a version (`set_serving_status`). -/
def setServing (client : Client) (project service version : Value)
    (status : ServingStatus) :
    Exchange ActionResult := do
  let _ ← Exchange.mapFailure (translate (versionNotFound service version) none)
    (client.patchVersion project service version (servingBody status)
      (.text servingMask))
  pure (.success (.routine "appmodules.plumbing.admin" "set_serving_status"))

/-! ## Hostnames -/

/-- The hostname of the application, empty if it has none
(`_default_hostname`). -/
def applicationHostname (client : Client) (project : Value) :
    Exchange Value := do
  let record ←
    Exchange.mapFailure (translate (projectNotFound project) none)
      (client.application project)
  Exchange.lift ((record.get "defaultHostname").map fun name =>
    name.orElse (.text ""))

/-- The default service is the only member. -/
def isDefaultAlone : List Value → Bool
  | [member] => member.equal (.text defaultService)
  | _ => false

/-- Whether the default service is the only one (`_only_default_service`).
Hostnames name the service only where there is another one, and where there is
none a service of another name does not exist. -/
def onlyDefault (client : Client) (project service : Value) :
    Exchange Bool := do
  let members ← listServices client project
  if isDefaultAlone members then
    if service.equal (.text defaultService) then pure true
      else throw (moduleNotFound service)
  else pure false

/-- The hostname of a version of a service (`get_version_hostname`). -/
def versionHostname (client : Client) (project service version : Value) :
    Exchange String := do
  let host ← applicationHostname client project
  if ← onlyDefault client project service then
    Exchange.lift (Hostname.join [version, host])
  else Exchange.lift (Hostname.join [version, service, host])

/-- The instance is one of those that the record of its version counts. -/
def checkInstance (number record : Value) : Except Failure Unit := do
  match ← scaling record with
  | .null =>
    throw (.plain .invalidInstances
      "Instance-specific hostnames are only available for manually scaled services.")
  | count =>
    match count.atMost? number with
    | some true =>
      throw (.plain .invalidInstances
        "The specified instance does not exist for this module/version.")
    | some false => pure ()
    | none => throw .wrongType

/-- The view of a version that holds all of its settings, the scaling among
them. -/
def fullView : Value := .text "FULL"

/-- The hostname of one instance of a manually scaled version
(`get_instance_hostname`). -/
def instanceHostname (client : Client)
    (project service version number : Value) : Exchange String := do
  let host ← applicationHostname client project
  if ← onlyDefault client project service then
    let label ← Exchange.lift number.spelled
    Exchange.lift (Hostname.join [.text label, version, host])
  else
    let record ← Exchange.mapFailure
      (translate (versionNotFound service version) none)
      (client.version project service version fullView)
    Exchange.lift (checkInstance number record)
    let label ← Exchange.lift number.spelled
    Exchange.lift (Hostname.join [.text label, version, service, host])

end Admin
end HostedModules
