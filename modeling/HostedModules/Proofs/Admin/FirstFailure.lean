/-
HostedModules.Proofs.Admin.FirstFailure — administrative work stops at the first
request that fails.

Whatever is asked of the administrative service, the request that fails is the
last one that is sent, nothing of what was found before is returned, and the
failure becomes the cause of the one that is raised.

* `Reply.nth` — the reply to each request
* `Exchange.Asks` — the work stops at the first failing reply, and raises
  something that the failure decides
* `Admin.Query` — the functions of the administrative service, on texts and
  integers
* `Admin.Translated` — what each failure of a request is raised as
* `Admin.Query.first_failure` — every failing request ends the work with the
  failure that it is raised as
-/
import HostedModules.Proofs.Admin.Segments
import HostedModules.Proofs.Admin.Trace

namespace HostedModules

/-- The reply to the request of this number. -/
def Reply.nth (replies : List Reply) (k : Nat) : Reply :=
  replies[k]?.getD Reply.blank

theorem Reply.nth_drop (replies : List Reply) (n k : Nat) :
    Reply.nth (replies.drop n) k = Reply.nth replies (n + k) := by
  simp only [Reply.nth, List.getElem?_drop]

namespace Exchange

variable {α β : Type} {raises raises' : Request → Failure → Failure → Prop}

/-! ## Work that stops at a failing reply -/

/-- Some work has sent these requests, of which it is known what their failures
are raised as.  The reply to none but the last of them amounts to a failure, and
then the work has raised something that the request and this failure decide. -/
structure Asked (raises : Request → Failure → Failure → Prop)
    (dialogue : Dialogue) (requests : List Request) (outcome : Except Failure α)
    (later : Dialogue) : Prop where
  sent : Effect.requests later.effects = Effect.requests dialogue.effects ++ requests
  used : later.replies = dialogue.replies.drop requests.length
  foreseen : ∀ request ∈ requests, ∃ failure raised,
    raises request failure raised
  stops : ∀ {k request failure}, requests[k]? = some request →
    (Reply.nth dialogue.replies k).read request.url = .error failure →
    requests.length = k + 1 ∧ ∃ raised, outcome = .error raised ∧
      raises request failure raised

/-- Whatever the replies, the work stops at the first that amounts to a failure,
and raises accordingly. -/
def Asks (raises : Request → Failure → Failure → Prop)
    (work : Exchange α) : Prop :=
  ∀ dialogue, ∃ requests,
    Asked raises dialogue requests (work dialogue).1 (work dialogue).2

theorem Asked.nothing (dialogue : Dialogue) (outcome : Except Failure α) :
    Asked raises dialogue [] outcome dialogue :=
  ⟨(List.append_nil _).symm, rfl, fun _ h => (nomatch h), fun h => nomatch h⟩

theorem Asked.one {dialogue later : Dialogue} {request : Request}
    {outcome : Except Failure α}
    (hsent : Effect.requests later.effects = Effect.requests dialogue.effects ++
      [request])
    (hused : later.replies = dialogue.replies.drop 1)
    (hforeseen : ∃ failure raised, raises request failure raised)
    (hraises : ∀ {failure}, (Reply.nth dialogue.replies 0).read request.url =
      .error failure → ∃ raised, outcome = .error raised ∧
      raises request failure raised) :
    Asked raises dialogue [request] outcome later := by
  refine ⟨hsent, hused, by simpa using hforeseen,
    fun {k request' failure} hrequest hread => ?_⟩
  cases k with
  | zero =>
      obtain rfl := Option.some.inj hrequest
      exact ⟨rfl, hraises hread⟩
  | succ k => exact nomatch hrequest

/-- Work that went well has met no failing reply, so what follows it may send
more requests. -/
theorem Asked.append {dialogue between later : Dialogue}
    {first second : List Request} {a : α} {outcome : Except Failure β}
    (hfirst : Asked raises dialogue first (.ok a : Except Failure α) between)
    (hsecond : Asked raises between second outcome later) :
    Asked raises dialogue (first ++ second) outcome later := by
  refine ⟨?_, ?_, fun request hmem => ?_,
    fun {k request failure} hrequest hread => ?_⟩
  · rw [hsecond.sent, hfirst.sent, List.append_assoc]
  · rw [hsecond.used, hfirst.used, List.drop_drop, List.length_append]
  · exact (List.mem_append.1 hmem).elim (hfirst.foreseen request)
      (hsecond.foreseen request)
  · rcases Nat.lt_or_ge k first.length with hlt | hge
    · rw [List.getElem?_append_left hlt] at hrequest
      obtain ⟨-, raised, hok, -⟩ := hfirst.stops hrequest hread
      exact nomatch hok
    · rw [List.getElem?_append_right hge] at hrequest
      have hreply : Reply.nth between.replies (k - first.length) =
          Reply.nth dialogue.replies k := by
        rw [hfirst.used, Reply.nth_drop, Nat.add_sub_cancel' hge]
      obtain ⟨hlast, hraised⟩ := hsecond.stops hrequest (hreply ▸ hread)
      exact ⟨by rw [List.length_append]; omega, hraised⟩

theorem asks_lift (result : Except Failure α) : Asks raises (lift result) :=
  fun dialogue => ⟨[], .nothing dialogue _⟩

theorem asks_pure (a : α) : Asks raises (pure a : Exchange α) :=
  fun dialogue => ⟨[], .nothing dialogue _⟩

theorem asks_throw (failure : Failure) :
    Asks raises (throw failure : Exchange α) :=
  fun dialogue => ⟨[], .nothing dialogue _⟩

theorem asks_bind {work : Exchange α} {next : α → Exchange β}
    (hwork : Asks raises work) (hnext : ∀ a, Asks raises (next a)) :
    Asks raises (work >>= next) := by
  intro dialogue
  obtain ⟨first, hfirst⟩ := hwork dialogue
  rcases hw : work dialogue with ⟨failure | a, between⟩ <;> rw [hw] at hfirst
  · rw [bind_of_error hw]
    refine ⟨first, hfirst.sent, hfirst.used, hfirst.foreseen,
      fun hrequest hread => ?_⟩
    obtain ⟨hlast, raised, houtcome, hraises⟩ := hfirst.stops hrequest hread
    exact ⟨hlast, raised, congrArg _ (Except.error.inj houtcome), hraises⟩
  · obtain ⟨second, hsecond⟩ := hnext a between
    rw [bind_of_ok hw]
    exact ⟨first ++ second, hfirst.append hsecond⟩

theorem asks_map {work : Exchange α} (f : α → β) (h : Asks raises work) :
    Asks raises (f <$> work) := by
  rw [map_eq_pure_bind]
  exact asks_bind h fun a => asks_pure (f a)

theorem asks_mapFailure {work : Exchange α} {f : Failure → Failure}
    (h : Asks raises work)
    (hraises : ∀ request failure raised,
      raises request failure raised → raises' request failure (f raised)) :
    Asks raises' (mapFailure f work) := by
  intro dialogue
  obtain ⟨requests, hasked⟩ := h dialogue
  refine ⟨requests, ?_⟩
  have hforeseen : ∀ request ∈ requests, ∃ failure raised,
      raises' request failure raised := by
    intro request hmem
    obtain ⟨failure, raised, hraised⟩ := hasked.foreseen request hmem
    exact ⟨failure, f raised, hraises _ _ _ hraised⟩
  unfold mapFailure
  rcases hw : work dialogue with ⟨failure | a, later⟩ <;> rw [hw] at hasked
  · refine ⟨hasked.sent, hasked.used, hforeseen, fun hrequest hread => ?_⟩
    obtain ⟨hlast, raised, houtcome, hraised⟩ := hasked.stops hrequest hread
    obtain rfl := Except.error.inj houtcome
    exact ⟨hlast, f failure, rfl, hraises _ _ _ hraised⟩
  · refine ⟨hasked.sent, hasked.used, hforeseen, fun hrequest hread => ?_⟩
    obtain ⟨-, raised, hok, -⟩ := hasked.stops hrequest hread
    exact nomatch hok

end Exchange

open Exchange

/-! ## Requests -/

namespace Client

/-- A request to this address raises the failure of its reply. -/
def Plainly (url : String) (request : Request)
    (failure raised : Failure) : Prop :=
  request.url = url ∧ raised = failure

theorem plainly_foreseen (request : Request) :
    ∃ failure raised, Plainly request.url request failure raised :=
  ⟨.wrongType, .wrongType, rfl, rfl⟩

theorem takeReply_eq (dialogue : Dialogue) :
    dialogue.takeReply = (Reply.nth dialogue.replies 0,
      ⟨dialogue.replies.drop 1, dialogue.effects⟩) := by
  obtain ⟨replies, effects⟩ := dialogue
  cases replies <;> rfl

theorem asks_send (client : Client) (verb path : String)
    (params : Option (List (String × Value))) (body : Option Value) :
    Asks (Plainly (client.baseUrl ++ path))
      (client.send verb path params body) := by
  intro dialogue
  refine ⟨[⟨verb, client.baseUrl ++ path, params, body⟩], ?_⟩
  rw [send, takeReply_eq]
  exact .one (Effect.requests_append _ _) rfl (plainly_foreseen _)
    fun {failure} hread => ⟨failure, hread, rfl, rfl⟩

/-- Every page is asked for at the address of the list, and the first failing
reply ends the list. -/
theorem asked_collectFrom (client : Client) (path key : String)
    (params : List (String × Value)) (found : List Value)
    (effects : List Effect) (replies : List Reply) :
    ∃ requests, Asked (Plainly (client.baseUrl ++ path)) ⟨replies,
      effects⟩ requests
      (client.collectFrom path key params found effects replies).1
      (client.collectFrom path key params found effects replies).2 := by
  -- the page that is asked for first, whatever comes of it
  have page {params : List (String × Value)} {effects : List Effect} {replies :
      List Reply} {α : Type}
      {outcome : Except Failure α}
      (houtcome : ∀ {failure},
        (Reply.nth replies 0).read (client.baseUrl ++ path) = .error failure →
        outcome = .error failure) :
      Asked (Plainly (client.baseUrl ++ path)) ⟨replies, effects⟩
        [⟨"GET", client.baseUrl ++ path, some params, none⟩] outcome
        ⟨replies.drop 1,
          effects ++ client.requestEffects "GET" path (some params) none⟩ :=
    .one (Effect.requests_append _ _) rfl (plainly_foreseen _)
      fun {failure} hread =>
      ⟨failure, houtcome hread, rfl, rfl⟩
  fun_induction client.collectFrom path key params found effects replies with
  | case1 =>
      exact ⟨_, page fun hread => by
        simp [Reply.nth, Reply.blank, Reply.read, Reply.content] at hread⟩
  | case2 params found effects reply rest now failure hpage =>
      exact ⟨_, page fun hread =>
        congrArg _ (Except.error.inj (hpage.symm.trans hread))⟩
  | case3 params found effects reply rest now content hpage =>
      exact ⟨_, page fun hread => absurd (hpage.symm.trans hread) (by simp)⟩
  | case4 params found effects reply rest now content hpage =>
      exact ⟨_, page fun hread => absurd (hpage.symm.trans hread) (by simp)⟩
  | case5 params found effects reply rest now content hpage found' token hnext ih =>
      obtain ⟨requests, hrest⟩ := ih
      have hfirst : Asked (Plainly (client.baseUrl ++ path)) ⟨reply :: rest,
        effects⟩ _
          (.ok () : Except Failure Unit) ⟨rest, now⟩ :=
        page fun hread => absurd (hpage.symm.trans hread) (by simp)
      exact ⟨_, hfirst.append hrest⟩

theorem asks_collect (client : Client) (path key : String) :
    Asks (Plainly (client.baseUrl ++ path)) (client.collect path key) :=
  fun dialogue =>
    asked_collectFrom client path key [] [] dialogue.effects dialogue.replies

end Client

/-! ## Functions -/

namespace Admin

/-- What a failed request is raised as, the failure being the cause.  Kinds may
be broader ones: a connection that is too slow is a failed connection, a timeout
and a failed request at once. -/
structure Translated (notFound : Failure) (refused : Option Failure)
    (failure raised : Failure) : Prop where
  cause : raised.cause = some failure
  missing : failure.kind.isA .httpStatus → failure.status? = some 404 →
    raised = notFound.following failure
  refusal : ∀ {refusal}, refused = some refusal → failure.kind.isA .httpStatus →
    failure.status? = some 400 → raised = refusal.following failure
  outage : ∀ {status}, failure.kind.isA .httpStatus →
    failure.status? = some status → 500 ≤ status →
    raised = .because .transient (failure.quoting "Admin API unavailable: ") failure
  unreachable : failure.kind.isA .connection ∨
    failure.kind.isA .requestTimeout →
    raised = .because .transient (failure.quoting "Admin API unreachable: ") failure
  credentials : failure.kind.isA .refresh →
    raised = .because .configuration
      (failure.quoting "Admin API credentials rejected: ") failure
  other : failure.kind.isA .request → ¬ failure.kind.isA .connection →
    ¬ failure.kind.isA .requestTimeout →
    (failure.kind.isA .httpStatus → ∀ status, failure.status? = some status →
      status ≠ 404 ∧ (refused.isSome → status ≠ 400) ∧ status < 500) →
    raised = .because .remote (failure.quoting "Admin API request failed: ") failure

theorem eq_httpStatus {kind : Failure.Kind} (h : kind.isA .httpStatus = true) :
    kind = .httpStatus := by
  cases kind <;> simp [Failure.Kind.isA, Failure.Kind.broader] at h ⊢

theorem eq_refresh {kind : Failure.Kind} (h : kind.isA .refresh = true) :
    kind = .refresh := by
  cases kind <;> simp [Failure.Kind.isA, Failure.Kind.broader] at h ⊢

theorem translated_status {notFound : Failure} {refused : Option Failure}
    {failure : Failure} (hkind : failure.kind = .httpStatus) :
    Translated notFound refused failure (statusFault notFound refused failure) where
  cause := by
    unfold statusFault
    cases refused <;> dsimp only <;> split_ifs <;> rfl
  missing _ hstatus := by simp [statusFault, hstatus]
  refusal hrefused _ hstatus := by simp [statusFault, hstatus, hrefused]
  outage {status} _ hstatus hle := by
    have h404 : status ≠ 404 := by omega
    have h400 : status ≠ 400 := by omega
    cases refused <;> simp [statusFault, hstatus, h404, h400, hle, temporary]
  unreachable h := absurd h (by rw [hkind]; decide)
  credentials h := absurd h (by rw [hkind]; decide)
  other _ _ _ hnone := by
    have hstatus := hnone (by rw [hkind]; rfl)
    cases hs : failure.status? with
    | none => cases refused <;> simp [statusFault, hs, rejected]
    | some status =>
        obtain ⟨h404, h400, hlt⟩ := hstatus status hs
        cases refused with
        | none => simp [statusFault, hs, h404, Int.not_le.2 hlt, rejected]
        | some refusal =>
            simp [statusFault, hs, h404, h400 rfl, Int.not_le.2 hlt, rejected]

theorem translated_unreachable {notFound : Failure} {refused : Option Failure}
    {failure : Failure} (hstatus : ¬ failure.kind.isA .httpStatus)
    (hway : failure.kind.isA .connection ∨ failure.kind.isA .requestTimeout) :
    Translated notFound refused failure
      (temporary "Admin API unreachable: " failure) where
  cause := rfl
  missing h _ := absurd h hstatus
  refusal _ h _ := absurd h hstatus
  outage h _ _ := absurd h hstatus
  unreachable _ := rfl
  credentials h := absurd hway (by rw [eq_refresh h]; decide)
  other _ hconnection htimeout _ := (hway.elim hconnection htimeout).elim

theorem translated_request {notFound : Failure} {refused : Option Failure}
    {failure : Failure} (hstatus : ¬ failure.kind.isA .httpStatus)
    (hway : ¬ (failure.kind.isA .connection ∨ failure.kind.isA .requestTimeout))
    (hrequest : failure.kind.isA .request) :
    Translated notFound refused failure (rejected failure) where
  cause := rfl
  missing h _ := absurd h hstatus
  refusal _ h _ := absurd h hstatus
  outage h _ _ := absurd h hstatus
  unreachable h := absurd h hway
  credentials h := absurd hrequest (by rw [eq_refresh h]; decide)
  other _ _ _ _ := rfl

theorem translated_refresh {notFound : Failure} {refused : Option Failure}
    {failure : Failure} (hkind : failure.kind = .refresh) :
    Translated notFound refused failure
      (.because .configuration
        (failure.quoting "Admin API credentials rejected: ") failure) where
  cause := rfl
  missing h _ := absurd h (by rw [hkind]; decide)
  refusal _ h _ := absurd h (by rw [hkind]; decide)
  outage h _ _ := absurd h (by rw [hkind]; decide)
  unreachable h := absurd h (by rw [hkind]; decide)
  credentials _ := rfl
  other h _ _ _ := absurd h (by rw [hkind]; decide)

theorem translated {notFound : Failure} {refused : Option Failure}
    {failure : Failure}
    (hkind : failure.kind.isA .request ∨ failure.kind.isA .refresh) :
    Translated notFound refused failure (translate notFound refused failure) := by
  unfold translate
  split
  · next hstatus => exact translated_status (eq_httpStatus hstatus)
  · next hstatus =>
      split
      · next hway =>
          exact translated_unreachable hstatus (Bool.or_eq_true_iff.1 hway)
      · next hway =>
          split
          · next hrequest =>
              exact translated_request hstatus
                (fun h => hway (Bool.or_eq_true_iff.2 h)) hrequest
          · next hrequest =>
              have hrefresh : failure.kind.isA .refresh :=
                hkind.resolve_left hrequest
              rw [if_pos hrefresh]
              exact translated_refresh (eq_refresh hrefresh)

/-- The functions of the administrative service. -/
inductive Query where
  | services
  | versions (moduleName : String)
  | defaultVersion (moduleName : String)
  | countInstances (moduleName version : String)
  | setInstances (moduleName version : String) (count : Int)
  | setServing (moduleName version : String) (status : ServingStatus)
  | versionHostname (moduleName version : String)
  | instanceHostname (moduleName version : String) (number : Int)

namespace Query

/-- The work of a function for a project. -/
def work (client : Client) (project : String) : Query → Exchange Answer
  | .services => .members <$> listServices client (.text project)
  | .versions moduleName =>
      .members <$> listVersions client (.text project) (.text moduleName)
  | .defaultVersion moduleName =>
    (fun name => .value (.text name)) <$>
      Admin.defaultVersion client (.text project) (.text moduleName)
  | .countInstances moduleName version =>
    .value <$> Admin.countInstances client (.text project) (.text moduleName)
      (.text version)
  | .setInstances moduleName version count =>
    .action <$> Admin.setInstances client (.text project) (.text moduleName)
      (.text version) (.int count)
  | .setServing moduleName version status =>
    .action <$> Admin.setServing client (.text project) (.text moduleName)
      (.text version) status
  | .versionHostname moduleName version =>
    (fun name => .value (.text name)) <$>
      Admin.versionHostname client (.text project) (.text moduleName)
        (.text version)
  | .instanceHostname moduleName version number =>
    (fun name => .value (.text name)) <$>
      Admin.instanceHostname client (.text project) (.text moduleName)
        (.text version) (.int number)

/-- What the requests of a function address. -/
def resources : Query → List Resource
  | .services => [.services]
  | .versions moduleName => [.versions moduleName]
  | .defaultVersion moduleName => [.service moduleName]
  | .countInstances moduleName version | .setInstances moduleName version _
  | .setServing moduleName version _ => [.version moduleName version]
  | .versionHostname _ _ => [.application, .services]
  | .instanceHostname moduleName version _ =>
      [.application, .services, .version moduleName version]

/-- What is said when the value that a function sends is refused, if it sends
one that may be. -/
def refused : Query → Option Failure
  | .setInstances _ _ count => some (countRefused (.int count))
  | _ => none

end Query

/-! ## Every function -/

variable {client : Client} {project : String} {refused : Option Failure}
    {resources : List Resource}

/-- What is made of the failure of a request for one of these resources. -/
def Raises (client : Client) (project : String) (refused : Option Failure)
    (resources : List Resource) (request : Request)
    (failure raised : Failure) : Prop :=
  ∃ resource ∈ resources,
    request.url = client.baseUrl ++ resource.path project ∧
    raised = translate (resource.notFound project) refused failure

/-- Requests for a resource, at the address that its path makes up. -/
theorem asks_for {α : Type} (resource : Resource) (hmem : resource ∈ resources)
    {ask : String → Exchange α}
    (h : ∀ path, Asks (Client.Plainly (client.baseUrl ++ path)) (ask path)) :
    Asks (Raises client project refused resources)
      (mapFailure (translate (resource.notFound project) refused)
        (lift (Path.resource (.text project) (resource.parts.map .text)) >>=
          ask)) := by
  rw [Resource.resource_eq_path]
  exact asks_mapFailure (h (resource.path project))
    fun _ _ _ hraises => ⟨resource, hmem, hraises.1, congrArg _ hraises.2⟩

theorem asks_listServices (hmem : .services ∈ resources) :
    Asks (Raises client project none resources)
      (listServices client (.text project)) :=
  asks_bind (asks_for .services hmem fun path =>
    Client.asks_collect client path "services") fun _ => asks_lift _

theorem asks_version {service version : String}
    (hmem : .version service version ∈ resources) (view : Value) :
    Asks (Raises client project none resources)
      (mapFailure (translate (versionNotFound (.text service) (.text version)) none)
        (client.version (.text project) (.text service)
          (.text version) view)) :=
  asks_for (.version service version) hmem fun _ =>
    Client.asks_send client "GET" _ _ _

theorem asks_patchVersion {service version : String}
    (hmem : .version service version ∈ resources) (body mask : Value) :
    Asks (Raises client project refused resources)
      (mapFailure (translate (versionNotFound (.text service) (.text version)) refused)
        (client.patchVersion (.text project) (.text service)
          (.text version) body mask)) :=
  asks_for (.version service version) hmem fun _ =>
    Client.asks_send client "PATCH" _ _ _

theorem asks_applicationHostname (hmem : .application ∈ resources) :
    Asks (Raises client project none resources)
      (applicationHostname client (.text project)) :=
  asks_bind (asks_for .application hmem
    fun _ => Client.asks_send client "GET" _ _ _) fun _ => asks_lift _

theorem asks_onlyDefault (hmem : .services ∈ resources) (service : Value) :
    Asks (Raises client project none resources)
      (onlyDefault client (.text project) service) := by
  refine asks_bind (asks_listServices hmem) fun members => ?_
  split
  · split
    · exact asks_pure _
    · exact asks_throw _
  · exact asks_pure _

/-- Every function stops at its first failing request, and translates the
failure for the resource that was asked for. -/
theorem Query.asks_work (query : Query) (client : Client) (project : String) :
    Asks (Raises client project query.refused query.resources)
      (query.work client project) := by
  cases query with
  | services => exact asks_map _ (asks_listServices (List.mem_singleton.2 rfl))
  | versions moduleName =>
      exact asks_map _
        (asks_bind (asks_for (.versions moduleName) (List.mem_singleton.2 rfl)
          fun path => Client.asks_collect client path "versions") fun _ =>
            asks_lift _)
  | defaultVersion moduleName =>
      exact asks_map _
        (asks_bind (asks_for (.service moduleName) (List.mem_singleton.2 rfl)
        fun _ => Client.asks_send client "GET" _ _ _) fun _ => asks_lift _)
  | countInstances moduleName version =>
      exact asks_map _ (asks_bind (asks_version (List.mem_singleton.2 rfl) _)
        fun _ => asks_lift _)
  | setInstances moduleName version count =>
      exact asks_map _ (asks_bind (asks_lift _) fun _ =>
        asks_bind (asks_patchVersion (List.mem_singleton.2 rfl) _ _) fun _ =>
          asks_pure _)
  | setServing moduleName version status =>
      exact asks_map _
        (asks_bind (asks_patchVersion (List.mem_singleton.2 rfl) _ _)
          fun _ => asks_pure _)
  | versionHostname moduleName version =>
      refine asks_map _
        (asks_bind (asks_applicationHostname (by simp [resources])) fun host => ?_)
      refine asks_bind (asks_onlyDefault (by simp [resources]) _) fun alone => ?_
      split <;> exact asks_lift _
  | instanceHostname moduleName version number =>
      refine asks_map _
        (asks_bind (asks_applicationHostname (by simp [resources])) fun host => ?_)
      refine asks_bind (asks_onlyDefault (by simp [resources]) _) fun alone => ?_
      split
      · exact asks_bind (asks_lift _) fun _ => asks_lift _
      · exact asks_bind (asks_version (by simp [resources]) _) fun _ =>
          asks_bind (asks_lift _) fun _ => asks_bind (asks_lift _) fun _ =>
            asks_lift _

/-- A function sends its requests for its own resources. -/
theorem Query.work_addresses (query : Query) (client : Client)
    (project : String) (dialogue : Dialogue) :
    ∀ request ∈ Effect.requests (query.work client project dialogue).2.effects,
      request ∈ Effect.requests dialogue.effects ∨
        ∃ resource ∈ query.resources,
          request.url = client.baseUrl ++ resource.path project := by
  intro request hmem
  obtain ⟨requests, hasked⟩ := query.asks_work client project dialogue
  rw [hasked.sent, List.mem_append] at hmem
  refine hmem.imp_right fun hmem => ?_
  obtain ⟨-, -, resource, hresource, hurl, -⟩ := hasked.foreseen request hmem
  exact ⟨resource, hresource, hurl⟩

/-- The requests that a function sends when these replies are in store. -/
def Query.sent (query : Query) (client : Client) (project : String)
    (replies : List Reply) : List Request :=
  Effect.requests (query.work client project ⟨replies, []⟩).2.effects

/-- What a function ends with when these replies are in store. -/
def Query.outcome (query : Query) (client : Client) (project : String)
    (replies : List Reply) :
    Except Failure Answer :=
  (query.work client project ⟨replies, []⟩).1

/-- **The first failing request is the last one, and nothing but its failure
comes of the work.**  The reply to the request of number `k`, counted from zero,
is an error status, a failure on the way, a body that is no JSON, or rejected
credentials.  Then `k + 1` requests have been sent, and what is raised follows
from that failure, and depends on what that request asked for: there is exactly
one such resource. -/
theorem Query.first_failure (query : Query) (client : Client) (project : String)
    (replies : List Reply) {k : Nat} {request : Request} {failure : Failure}
    (hsent : (query.sent client project replies)[k]? = some request)
    (hfails : (Reply.nth replies k).read request.url = .error failure)
    (hkind : failure.kind.isA .request ∨ failure.kind.isA .refresh) :
    (query.sent client project replies).length = k + 1 ∧
    ∃ resource ∈ query.resources,
      request.url = client.baseUrl ++ resource.path project ∧
      (∀ other, request.url = client.baseUrl ++ Resource.path project other →
        other = resource) ∧
      ∃ raised, query.outcome client project replies = .error raised ∧
        Translated (resource.notFound project) query.refused failure raised := by
  obtain ⟨requests, hasked⟩ := query.asks_work client project ⟨replies, []⟩
  have hrequests : query.sent client project replies = requests := hasked.sent
  rw [hrequests] at hsent ⊢
  obtain ⟨hlast, raised, houtcome, resource, hmem, hurl, rfl⟩ :=
    hasked.stops hsent hfails
  refine ⟨hlast, resource, hmem, hurl, fun other hother => ?_, _, houtcome,
    translated hkind⟩
  have hpath := String.append_right_inj client.baseUrl |>.1
    (hurl.symm.trans hother)
  exact (Resource.path_injective hpath).2.symm

/-- The application and its services are found, and then the version of the
instance is not there. -/
theorem Query.first_failure_missing_version :
    ((Query.instanceHostname "web" "v1" 0).sent ⟨"", none⟩ "shop"
      [.blank, .blank, .response 404 (some "Not Found") ""]).length = 3 ∧
    ∃ raised, (Query.instanceHostname "web" "v1" 0).outcome ⟨"", none⟩ "shop"
        [.blank, .blank, .response 404 (some "Not Found") ""] = .error raised ∧
      raised.kind = .invalidVersion ∧
      raised.cause =
        some (Reply.statusFailure "apps/shop/services/web/versions/v1" 404
          (some "Not Found") "Client") := by
  obtain ⟨hlast, resource, hmem, hurl, hunique, raised, houtcome,
      htranslated⟩ :=
    first_failure (.instanceHostname "web" "v1" 0) ⟨"", none⟩ "shop"
      [.blank, .blank, .response 404 (some "Not Found") ""] (k := 2) rfl rfl
        (Or.inl rfl)
  obtain rfl : (.version "web" "v1" : Resource) = resource := hunique _ rfl
  refine ⟨hlast, raised, houtcome, ?_, htranslated.cause⟩
  rw [htranslated.missing rfl rfl]
  rfl

end Admin
end HostedModules
