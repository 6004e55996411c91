/-
HostedModules.Proofs.Admin.Update — an update is one request, for one field of
one version.

The mask of an update and its body are written apart from each other; what the
body holds is read off it leaf by leaf, so that nothing in it goes unnoticed.

* `Value.leaves` — the leaves of a value, each with the keys that lead to it
* `Request.Reads`, `Request.Changes` — a request that changes nothing, and one
  that changes a single field
* `Exchange.Sends` — whatever the replies, the work sends this one request
* `setInstances_sends`, `setServing_sends` — both updates send one request,
  which changes a single field
-/
import HostedModules.Proofs.Admin.Segments
import HostedModules.Proofs.Admin.Trace

namespace HostedModules

namespace Value

mutual

/-- The leaves of a value, each with the keys that lead to it.  A list is a
leaf, and so is an empty record. -/
def leaves : Value → List (List String × Value)
  | .record fields =>
      if fields.isEmpty then [([], .record [])] else leavesOfFields fields
  | v => [([], v)]

/-- The leaves of the fields of a record. -/
def leavesOfFields : List (String × Value) → List (List String × Value)
  | [] => []
  | (key, v) :: rest =>
      v.leaves.map (fun (path, leaf) => (key :: path, leaf)) ++
        leavesOfFields rest

end

end Value

namespace Request

/-- The request only reads. -/
structure Reads (request : Request) : Prop where
  verb : request.verb = "GET"
  body : request.body = none

/-- The request changes this field of this version, and nothing else: the mask
names the field, and in the body it is the only leaf. -/
structure Changes (request : Request) (client : Client)
    (project moduleName version : String) (path : List String)
    (v : Value) : Prop where
  verb : request.verb = "PATCH"
  url : request.url = client.baseUrl ++
    (Admin.Resource.version moduleName version).path project
  mask : request.params = some [("updateMask", .text (".".intercalate path))]
  body : ∃ body, request.body = some body ∧ body.leaves = [(path, v)]

/-- There is no other version, and no other resource of any project, that the
request could be about. -/
theorem Changes.only {request : Request} {client : Client}
    {project moduleName version : String} {path : List String} {v : Value}
    (h : request.Changes client project moduleName version path v)
    {project' : String} {resource : Admin.Resource}
    (hurl : request.url = client.baseUrl ++ resource.path project') :
    project' = project ∧ resource = .version moduleName version :=
  Admin.Resource.path_injective
    ((String.append_right_inj client.baseUrl).1 (hurl.symm.trans h.url))

end Request

/-! ## Work that sends one request -/

namespace Exchange

/-- Whatever the replies, the work sends this request, and no other. -/
def Sends {α : Type} (request : Request) (work : Exchange α) : Prop :=
  ∀ dialogue, Effect.requests (work dialogue).2.effects =
    Effect.requests dialogue.effects ++ [request]

variable {α β : Type} {request : Request}

theorem Sends.mapFailure {work : Exchange α} (h : Sends request work)
    (f : Failure → Failure) :
    Sends request (mapFailure f work) := by
  intro dialogue
  rw [← h dialogue]
  unfold Exchange.mapFailure
  rcases work dialogue with ⟨failure | a, after⟩ <;> rfl

theorem Sends.map {work : Exchange α} (h : Sends request work) (f : α → β) :
    Sends request (f <$> work) := by
  intro dialogue
  rw [← h dialogue, map_eq_pure_bind]
  rcases hw : work dialogue with ⟨failure | a, after⟩
  · rw [bind_of_error hw]
  · rw [bind_of_ok hw]
    rfl

end Exchange

open Exchange

/-! ## Updates -/

namespace Client

variable (client : Client) (project moduleName version : String)

/-- The request for an update of a version. -/
def updateRequest (mask : String) (body : Value) : Request :=
  ⟨"PATCH", client.baseUrl ++
    (Admin.Resource.version moduleName version).path project,
    some [("updateMask", .text mask)], some body⟩

theorem sends_patchVersion (mask : String) (body : Value) :
    Sends (client.updateRequest project moduleName version mask body)
      (client.patchVersion (.text project) (.text moduleName)
        (.text version) body (.text mask)) := by
  intro dialogue
  have hpath :
      lift (versionPath (.text project) (.text moduleName) (.text version))
      dialogue =
      (.ok ((Admin.Resource.version moduleName version).path project),
        dialogue) :=
    congrArg (·, dialogue)
      (Admin.Resource.resource_eq_path project (.version moduleName version))
  rw [patchVersion, bind_of_ok hpath]
  show Effect.requests (Dialogue.takeReply _).2.effects = _
  rw [takeReply_effects]
  exact Effect.requests_append _ _

/-- An update changes the field that its mask names, if that is the only leaf of
its body. -/
theorem updateRequest_changes {path : List String} {v body : Value}
    (h : body.leaves = [(path, v)]) :
    (client.updateRequest project moduleName version
      (".".intercalate path) body).Changes
      client project moduleName version path v :=
  ⟨rfl, rfl, rfl, body, rfl, h⟩

end Client

namespace Admin

variable (client : Client) (project moduleName version : String)

/-- A change of the instance count is one request, unless the count cannot be
written. -/
theorem setInstances_sends {count : Int}
    (hcount : (Value.int count).writable = true) :
    ∃ request : Request,
      request.Changes client project moduleName version ["manualScaling",
        "instances"] (.int count) ∧
      Sends request (setInstances client (.text project) (.text moduleName)
        (.text version) (.int count)) := by
  have hleaf : (scalingBody (.int count)).leaves =
      [(["manualScaling", "instances"], .int count)] := rfl
  refine ⟨_, client.updateRequest_changes project moduleName version hleaf,
    fun dialogue => ?_⟩
  have hspelled : (Value.int count).spelled = .ok (Value.int count).shown :=
    if_pos hcount
  have hlift : lift (Value.int count).spelled dialogue =
      (.ok (Value.int count).shown, dialogue) :=
    congrArg (·, dialogue) hspelled
  rw [setInstances, bind_of_ok hlift, ← map_eq_pure_bind]
  exact ((client.sends_patchVersion _ _ _ _ _).mapFailure _).map _ dialogue

/-- A change of the serving status is one request. -/
theorem setServing_sends (status : ServingStatus) :
    ∃ request : Request,
      request.Changes client project moduleName version ["servingStatus"]
        (.text status.name) ∧
      Sends request (setServing client (.text project) (.text moduleName)
        (.text version) status) := by
  have hleaf : (servingBody status).leaves =
      [(["servingStatus"], .text status.name)] := rfl
  refine ⟨_, client.updateRequest_changes project moduleName version hleaf, ?_⟩
  rw [setServing, ← map_eq_pure_bind]
  exact ((client.sends_patchVersion _ _ _ _ _).mapFailure _).map _

end Admin
end HostedModules
