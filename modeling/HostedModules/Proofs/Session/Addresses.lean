/-
HostedModules.Proofs.Session.Addresses — what the addresses of requests are made
of.

The address of a request is that of the service, then a path.  Nothing that a
caller passes for a name can change the shape of the path: it has one segment
for each name, whatever the name is made of.

* `Operation.query?` — the function of the administrative service behind an
  operation
* `Session.requests_spell_names` — every path, and every request, is of that
  shape
-/
import HostedModules.Proofs.Admin.FirstFailure
import HostedModules.Proofs.Channel.Agreement
import HostedModules.Proofs.Session.Carried
import HostedModules.Proofs.Session.Updates

namespace HostedModules

open Exchange Effect

/-! ## Functions behind operations -/

namespace Operation

/-- The function of the administrative service that carries an operation out,
once its names are texts. -/
def query? : Operation → Option Admin.Query
  | .modules => some .services
  | .versions (.text moduleName) => some (.versions moduleName)
  | .defaultVersion (.text moduleName) => some (.defaultVersion moduleName)
  | .countInstances ⟨.text moduleName, .text version⟩ =>
      some (.countInstances moduleName version)
  | .setInstances count ⟨.text moduleName, .text version⟩ =>
      some (.setInstances moduleName version count)
  | .start ⟨.text moduleName, .text version⟩ =>
      some (.setServing moduleName version .serving)
  | .stop ⟨.text moduleName, .text version⟩ =>
      some (.setServing moduleName version .stopped)
  | .versionHostname ⟨.text moduleName, .text version⟩ =>
      some (.versionHostname moduleName version)
  | .instanceHostname number ⟨.text moduleName, .text version⟩ =>
    some (.instanceHostname moduleName version number)
  | _ => none

theorem administer_query {operation : Operation} {query : Admin.Query}
    (h : operation.query? = some query) (client : Client) (project : String) :
    operation.administer client (.text project) = query.work client project := by
  unfold query? at h
  split at h
  case h_10 => exact nomatch h
  all_goals
    obtain rfl := Option.some.inj h
    rfl

/-- An operation whose names are texts, unless they were left out, has a
function behind it. -/
theorem query?_of_resolve {operation resolved : Operation} {bindings : Bindings}
    (hmodule : Call.Name operation.target.moduleName)
    (hversion : Call.Name operation.target.version)
    (h : operation.resolve bindings = .ok resolved) :
    ∃ query, resolved.query? = some query := by
  have hname : ∀ {given name}, Call.Name given →
    Target.resolveModule bindings given = .ok name →
      ∃ s, name = .text s := fun hgiven hresolved =>
        Call.text_of_nameOr hgiven hresolved
  cases operation with
  | modules =>
      obtain rfl := Except.ok.inj h
      exact ⟨_, rfl⟩
  | versions given =>
      obtain ⟨name, hresolved, rfl⟩ := Failure.map_eq_ok.1 h
      obtain ⟨s, rfl⟩ := hname hmodule hresolved
      exact ⟨_, rfl⟩
  | defaultVersion given =>
      obtain ⟨name, hresolved, rfl⟩ := Failure.map_eq_ok.1 h
      obtain ⟨s, rfl⟩ := hname hmodule hresolved
      exact ⟨_, rfl⟩
  | _ =>
      obtain ⟨target, hresolved, rfl⟩ := Failure.map_eq_ok.1 h
      obtain ⟨m, v, rfl⟩ := Call.texts_of_resolve hmodule hversion hresolved
      exact ⟨_, rfl⟩

end Operation

/-! ## Requests -/

namespace Session

/-- What a call sends to the administrative service is sent by the function
behind its operation. -/
theorem take_query {service : Service} {session : Session} {step : Step}
    {call : Call} {backends : Backends}
    (hstep : step.call? = some (call, backends))
    (hmodule : Call.Name call.target.moduleName)
    (hversion : Call.Name call.target.version) {request : Request}
    (hmem : request ∈ requests (take service session step).effects) :
    ∃ client operation resolved query, backends.client = .ok client ∧
      call.check = .ok operation ∧
      operation.resolve session.bindings = .ok resolved ∧
        resolved.query? = some query ∧
      ∃ resource ∈ query.resources,
        request.url = client.baseUrl ++ resource.path service.project := by
  cases hcheck : call.check with
  | error failure =>
      rw [take_refused service session hstep hcheck] at hmem
      cases hmem
  | ok operation =>
      cases hopted : session.optedIn with
      | false =>
          rw [take_requests_legacy service session hstep hopted] at hmem
          cases hmem
      | true =>
          rw [(take_sent service session hstep hcheck).1, hopted,
            Dispatch.begin, if_pos rfl] at hmem
          have htarget := (Call.yields_of_check hcheck).target
          cases hresolve : operation.resolve session.bindings with
          | error failure =>
              rw [Dispatch.administered_nothing service _ session.store
                (.inl hresolve)] at hmem
              cases hmem
          | ok resolved =>
              cases hclient : backends.client with
              | error failure =>
                  rw [Dispatch.administered_nothing service _ session.store
                    (.inr hclient)] at hmem
                  cases hmem
              | ok client =>
                  obtain ⟨query, hquery⟩ :=
                    Operation.query?_of_resolve (htarget ▸ hmodule)
                      (htarget ▸ hversion) hresolve
                  rw [Dispatch.administered_eq service
                    (session.circumstances backends) session.store hresolve,
                    show (session.circumstances backends).client = .ok client
                      from hclient] at hmem
                  have hwork : request ∈
                    requests (query.work client service.project
                      ⟨backends.replies,
                        [.labelled resolved.label]⟩).2.effects := by
                    rw [← Operation.administer_query hquery]
                    exact hmem
                  obtain hlabel | haddress :=
                    query.work_addresses _ _ _ request hwork
                  · cases hlabel
                  · exact ⟨client, operation, resolved, query, rfl, rfl,
                      hresolve, hquery, haddress⟩

/-- **Names stay within their segments.**  The path of a resource is `apps` and
one segment for the project and for each name, of unreserved characters and
escapes, from which the names are decoded; so it belongs to no other project and
names.  Every request of the functions of the administrative service is sent to
an address that is that of the service and such a path, for one of the resources
that the function is about.  So is every request of a process, for the function
behind its call: whatever the names in the call are made of, they add no level,
no query and no fragment to the address. -/
theorem requests_spell_names :
    (∀ project parts, ∃ path, Path.resource (.text project) (parts.map .text) =
      .ok path ∧
      Path.Spells path project parts ∧
      ∀ project' parts', Path.resource (.text project') (parts'.map .text) =
        .ok path →
        project' = project ∧ parts' = parts) ∧
    (∀ (query : Admin.Query) (client : Client) (project : String)
      (replies : List Reply),
      ∀ request ∈ query.sent client project replies,
        ∃ resource ∈ query.resources, ∃ path,
        request.url = client.baseUrl ++ path ∧
          Path.Spells path project resource.parts) ∧
    ∀ (service : Service) (session : Session) (step : Step)
      (call : Call) (backends : Backends),
      step.call? = some (call, backends) → Call.Name call.target.moduleName →
        Call.Name call.target.version →
      ∀ request ∈ requests (take service session step).effects,
        ∃ client operation resolved query, backends.client = .ok client ∧
          call.check = .ok operation ∧
          operation.resolve session.bindings = .ok resolved ∧
            resolved.query? = some query ∧
          ∃ resource ∈ query.resources, ∃ path,
            request.url = client.baseUrl ++ path ∧
              Path.Spells path service.project resource.parts := by
  refine ⟨fun project parts => ?_,
    fun query client project replies request hmem => ?_, ?_⟩
  · refine ⟨_, Path.resource_texts project parts,
      Path.spells_joined project parts, fun project' parts' h => ?_⟩
    rw [Path.resource_texts] at h
    have hspells := Path.spells_joined project' parts'
    rw [Except.ok.inj h] at hspells
    exact (Path.spells_joined project parts).unique hspells
  · obtain hnone | ⟨resource, hresource, hurl⟩ :=
      query.work_addresses client project ⟨replies, []⟩ request hmem
    · cases hnone
    · exact ⟨resource, hresource, _, hurl,
        Path.spells_joined project resource.parts⟩
  · intro service session step call backends hstep hmodule hversion request hmem
    obtain ⟨client, operation, resolved, query, hclient, hcheck, hresolve,
        hquery, resource, hresource, hurl⟩ :=
      take_query hstep hmodule hversion hmem
    exact ⟨client, operation, resolved, query, hclient, hcheck, hresolve,
      hquery, resource, hresource, _, hurl,
      Path.spells_joined service.project resource.parts⟩

/-- The question for the versions of a module whose name is full of
separators. -/
def askVersions : Step :=
  .call (.versions (.text "web/../v1?view=#")) .null
    ⟨.ok ⟨Client.defaultUrl, none⟩, [], .pending⟩

/-- The name of the module stays one segment of the address. -/
theorem requests_spell_names_of_separators :
    ∃ request path,
      requests (take shop (initial ⟨[]⟩ (some true)) askVersions).effects =
      [request] ∧
      request.url = Client.defaultUrl ++ path ∧
      Path.Spells path "shop" ["services", "web/../v1?view=#", "versions"] := by
  obtain ⟨request, hsent⟩ : ∃ request,
      requests (take shop (initial ⟨[]⟩ (some true)) askVersions).effects =
        [request] := List.length_eq_one_iff.1 rfl
  obtain ⟨client, operation, resolved, query, hclient, hcheck, hresolve, hquery,
    resource, hresource, path, hurl,
    hspells⟩ := requests_spell_names.2.2 shop
      (initial ⟨[]⟩ (some true)) askVersions _ _ rfl True.intro True.intro _
      (hsent ▸ List.mem_singleton_self _)
  obtain rfl := Except.ok.inj hclient
  obtain rfl := Except.ok.inj hcheck
  obtain rfl := Except.ok.inj hresolve
  obtain rfl := Option.some.inj hquery
  obtain rfl := List.mem_singleton.1 hresource
  exact ⟨_, path, hsent, hurl, hspells⟩

end Session
end HostedModules
