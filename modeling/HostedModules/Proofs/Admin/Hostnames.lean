/-
HostedModules.Proofs.Admin.Hostnames — the hostname of an instance continues
that of its version.

Both hostnames are made of the hostname of the application and, unless the
default service is the only one, of the name of the service.  The hostname of a
version is then at hand; for that of an instance the version is looked up first,
unless the default service is the only one.

* `Hostname.dotted` — the texts that are not empty, with dots between them
* `Client.lookUp_eq` — what a single request comes to
* `Admin.suffix` — the part of a hostname behind the version, which both
  hostnames begin by finding out
* `Admin.confirm` — the look-up of the version, which only the hostname of an
  instance takes
* `Admin.Query.instance_continues_version` — from the same replies, the one call
  continues the other
-/
import HostedModules.Proofs.Admin.Pages

namespace HostedModules

open Exchange

/-! ## Parts of hostnames -/

namespace Hostname

/-- The texts that are not empty, with dots between them. -/
def dotted (parts : List String) : String :=
  String.intercalate "." (parts.filter fun part => !part.isEmpty)

theorem texts_map_text (parts : List String) :
    texts (parts.map .text) = .ok parts := by
  induction parts with
  | nil => rfl
  | cons part rest ih =>
      rw [List.map_cons, texts, ih]
      rfl

/-- Texts are joined with dots between them. -/
theorem join_texts (parts : List String) :
    join (parts.map .text) = .ok (dotted parts) := by
  have htruthy : (parts.map Value.text).filter Value.truthy =
      (parts.filter fun part => !part.isEmpty).map .text := by
    rw [List.filter_map]
    rfl
  rw [join, htruthy, texts_map_text]
  rfl

theorem dotted_of_isEmpty {part : String} (h : part.isEmpty = true)
    (parts : List String) :
    dotted (part :: parts) = dotted parts := by
  simp [dotted, h]

theorem dotted_singleton (part : String) : dotted [part] = part := by
  cases h : part.isEmpty with
  | true => rw [dotted_of_isEmpty h, String.isEmpty_iff.1 h]; rfl
  | false => simp [dotted, h]

/-- Dots are put where they would be if all parts were joined at once. -/
theorem dotted_dotted (part : String) (parts : List String) :
    dotted [part, dotted parts] = dotted (part :: parts) := by
  cases hpart : part.isEmpty with
  | true =>
      rw [dotted_of_isEmpty hpart, dotted_of_isEmpty hpart, dotted_singleton]
  | false =>
      cases hkept : parts.filter fun part => !part.isEmpty with
      | nil => simp [dotted, hpart, hkept]
      | cons first rest =>
          have hmem : first ∈ parts.filter fun part => !part.isEmpty := by
            simp [hkept]
          have hfirst : first.isEmpty = false := by
            simpa using (List.mem_filter.1 hmem).2
          have hjoined : (dotted parts).isEmpty = false := by
            cases rest <;> simp_all [dotted]
          simp_all [dotted]

end Hostname

/-! ## Single requests -/

namespace Exchange

variable {α β : Type}

/-- Work whose answer is turned into another one. -/
theorem map_eq (f : α → β) (work : Exchange α) (dialogue : Dialogue) :
    (f <$> work) dialogue = ((work dialogue).1.map f, (work dialogue).2) := by
  rw [map_eq_pure_bind]
  rcases h : work dialogue with ⟨failure | a, later⟩
  · rw [bind_of_error h]
    rfl
  · rw [bind_of_ok h]
    rfl

/-- Work that goes on with a computation. -/
theorem bind_lift_eq (work : Exchange α) (next : α → Except Failure β)
    (dialogue : Dialogue) :
    (work >>= fun a => lift (next a)) dialogue =
      ((work dialogue).1.bind next, (work dialogue).2) := by
  rcases h : work dialogue with ⟨failure | a, later⟩
  · rw [bind_of_error h]
    rfl
  · rw [bind_of_ok h]
    rfl

end Exchange

namespace Client

/-- The request to look at a resource of a project. -/
def lookUp (client : Client) (project : String) (resource : Admin.Resource)
    (params : Option (List (String × Value))) : Request :=
  ⟨"GET", client.baseUrl ++ resource.path project, params, none⟩

/-- What looking at a resource of a project leaves behind. -/
def lookedUp (client : Client) (project : String) (resource : Admin.Resource)
    (params : Option (List (String × Value)))
    (dialogue : Dialogue) : Dialogue :=
  ⟨dialogue.replies.drop 1,
    dialogue.effects ++ client.requestEffects "GET"
    (resource.path project) params none⟩

/-- What the next reply tells of a resource, once what is wrong with it is
translated. -/
def told (client : Client) (project : String) (resource : Admin.Resource)
    (replies : List Reply) :
    Except Failure Value :=
  ((Reply.nth replies 0).read
    (client.baseUrl ++ resource.path project)).mapError
    (Admin.translate (resource.notFound project) none)

theorem requests_lookedUp (client : Client) (project : String)
    (resource : Admin.Resource) (params : Option (List (String × Value)))
    (dialogue : Dialogue) :
    Effect.requests (client.lookedUp project resource params dialogue).effects =
      Effect.requests dialogue.effects ++
        [client.lookUp project resource params] :=
  Effect.requests_append _ _

/-- Looking at a resource is one request, and comes to what the next reply
tells. -/
theorem lookUp_eq (client : Client) (project : String)
    (resource : Admin.Resource) (params : Option (List (String × Value)))
    (dialogue : Dialogue) :
    mapFailure (Admin.translate (resource.notFound project) none)
        (lift (Path.resource (.text project) (resource.parts.map .text)) >>=
          fun path =>
          client.send "GET" path params none) dialogue =
      (client.told project resource dialogue.replies,
        client.lookedUp project resource params dialogue) := by
  have hsend :
      (lift (Path.resource (.text project) (resource.parts.map .text)) >>=
        fun path =>
        client.send "GET" path params none) dialogue =
        ((Reply.nth dialogue.replies 0).read
          (client.baseUrl ++ resource.path project),
          client.lookedUp project resource params dialogue) := by
    rw [Admin.Resource.resource_eq_path]
    show client.send "GET" (resource.path project) params none dialogue = _
    rw [send, takeReply_eq]
    rfl
  rw [mapFailure, hsend, told]
  cases (Reply.nth dialogue.replies 0).read
    (client.baseUrl ++ resource.path project) <;> rfl

end Client

/-! ## The list of services -/

namespace Client

/-- What a list comes to does not depend on what happened before. -/
theorem collectFrom_fresh (client : Client) (path key : String)
    (params : List (String × Value)) (found : List Value) (replies : List Reply)
    (effects others : List Effect) :
    (client.collectFrom path key params found effects replies).1 =
      (client.collectFrom path key params found others replies).1 := by
  induction replies generalizing params found effects others with
  | nil => rfl
  | cons reply rest ih =>
      rw [collectFrom, collectFrom]
      cases reply.read (client.baseUrl ++ path) with
      | error failure => rfl
      | ok page =>
          dsimp only
          rcases readPage key found page with failure | ⟨found', none | token⟩
          · rfl
          · rfl
          · exact ih _ _ _ _

end Client

namespace Admin

open Client

/-- The names of the services are read off the replies, whatever happened
before. -/
theorem listServices_fresh (client : Client) (project : String)
    (replies : List Reply) (effects : List Effect) :
    (listServices client (.text project) ⟨replies, effects⟩).1 =
      (listServices client (.text project) ⟨replies, []⟩).1 := by
  have hrecords : ∀ effects,
    (client.services (.text project) ⟨replies, effects⟩).1 =
      (client.collectFrom (Resource.services.path project) "services" [] []
        [] replies).1 := by
    intro effects
    rw [show client.services (.text project) ⟨replies, effects⟩ = _ from
      Listing.services.records_eq client project ⟨replies, effects⟩]
    exact collectFrom_fresh client _ _ _ _ _ _ _
  have hlist : ∀ effects,
    (listServices client (.text project) ⟨replies, effects⟩).1 =
      ((client.services (.text project) ⟨replies, effects⟩).1.mapError
        (translate (projectNotFound (.text project)) none)).bind ids := by
    intro effects
    rw [listServices, bind_lift_eq, mapFailure]
    rcases client.services (.text project) ⟨replies,
      effects⟩ with ⟨failure | records, later⟩ <;> rfl
  rw [hlist, hlist, hrecords, hrecords]

/-- Some values are no two of them one member of a set. -/
def Distinct (members : List Value) : Prop :=
  members.Pairwise fun v w => Value.sameMember w v = false

theorem Distinct.idsFrom {records members found : List Value}
    (h : Distinct members) (hids : idsFrom members records = .ok found) :
    Distinct found := by
  induction records generalizing members with
  | nil =>
      obtain rfl := Except.ok.inj hids
      exact h
  | cons record rest ih =>
      rw [Admin.idsFrom] at hids
      cases hid : record.item "id" with
      | error failure => simp [hid] at hids
      | ok id =>
          simp only [hid] at hids
          split at hids
          · exact ih (Value.pairwise_addMember h id) hids
          · cases hids

/-- What the services are listed as is a set. -/
theorem Distinct.listServices {client : Client} {project : Value}
    {dialogue : Dialogue} {members : List Value}
    (h : (Admin.listServices client project dialogue).1 = .ok members) :
    Distinct members := by
  rw [Admin.listServices, bind_lift_eq] at h
  cases hrecords :
    (mapFailure (translate (projectNotFound project) none)
      (client.services project) dialogue).1 with
  | error failure =>
      simp only [hrecords] at h
      cases h
  | ok records =>
      simp only [hrecords] at h
      exact Distinct.idsFrom .nil h

/-- The default service is the only member if it is one and no other value
is. -/
theorem isDefaultAlone_iff {members : List Value} (h : Distinct members) :
    isDefaultAlone members = true ↔ ∀ v, v ∈ members ↔
      v = .text defaultService := by
  -- nothing but a text equals a text, so the sets can be compared member by
  -- member
  have hequal : ∀ v : Value, v.equal (.text defaultService) = true ↔
      v = .text defaultService := by
    intro v
    cases v <;> simp [Value.equal, Value.sameQuantity, Value.quantity?]
  cases members with
  | nil =>
      simp only [isDefaultAlone, Bool.false_eq_true, List.not_mem_nil,
        false_iff]
      intro hall
      exact hall (.text defaultService) rfl
  | cons v more =>
      cases more with
      | nil =>
          simp only [isDefaultAlone, hequal, List.mem_singleton]
          constructor
          · rintro rfl w
            exact Iff.rfl
          · intro hall
            exact (hall v).1 rfl
      | cons w rest =>
          simp only [isDefaultAlone, Bool.false_eq_true, false_iff]
          intro hall
          have hv := (hall v).1 (by simp)
          have hw := (hall w).1 (by simp)
          have hsame := (List.pairwise_cons.1 h).1 w (by simp)
          simp [hv, hw, Value.sameMember, Value.equal] at hsame

end Admin

/-! ## What both hostnames begin with -/

namespace Admin

open Client

/-- The part of a hostname behind the version: the service, unless it is the
only one, and the application.  It comes with whether the service is the only
one. -/
def suffix (client : Client) (project service : Value) :
    Exchange (Bool × List Value) := do
  let host ← applicationHostname client project
  let alone ← onlyDefault client project service
  pure (alone, if alone then [host] else [service, host])

/-- Look the version up, and find the instance among those that its record
counts. -/
def confirm (client : Client) (project service version number : Value) :
    Exchange Unit := do
  let record ← mapFailure (translate (versionNotFound service version) none)
    (client.version project service version fullView)
  lift (checkInstance number record)

theorem versionHostname_eq (client : Client) (project service version : Value) :
    versionHostname client project service version =
      suffix client project service >>= fun found =>
        lift (Hostname.join (version :: found.2)) := by
  simp only [versionHostname, suffix, bind_assoc, pure_bind]
  congr 1
  funext host
  congr 1
  funext alone
  cases alone <;> rfl

theorem instanceHostname_eq (client : Client)
    (project service version number : Value) :
    instanceHostname client project service version number =
      suffix client project service >>= fun found =>
        (if found.1 then pure ()
          else confirm client project service version number) >>= fun _ =>
          lift number.spelled >>= fun label =>
            lift (Hostname.join (.text label :: version :: found.2)) := by
  simp only [instanceHostname, suffix, confirm, bind_assoc, pure_bind]
  congr 1
  funext host
  congr 1
  funext alone
  cases alone with
  | true => rfl
  | false => simp only [Bool.false_eq_true, if_false, bind_assoc]

variable {client : Client} {project moduleName : String}
    {dialogue later : Dialogue}

/-- If the part behind the version cannot be found out, neither hostname can,
and nothing more is asked. -/
theorem hostnames_of_failed {failure : Failure}
    (h : suffix client (.text project) (.text moduleName) dialogue =
      (.error failure, later))
    (version number : Value) :
    versionHostname client (.text project) (.text moduleName) version dialogue =
      (.error failure, later) ∧
      instanceHostname client (.text project) (.text moduleName) version number
        dialogue =
        (.error failure, later) := by
  rw [versionHostname_eq, instanceHostname_eq]
  exact ⟨bind_of_error h, bind_of_error h⟩

/-- The hostname of a version is at hand once the part behind it is. -/
theorem versionHostname_of_suffix {alone : Bool} {labels : List String}
    (h : suffix client (.text project) (.text moduleName) dialogue =
      (.ok (alone, labels.map .text), later))
    (version : String) :
    versionHostname client (.text project) (.text moduleName)
      (.text version) dialogue =
      (.ok (Hostname.dotted (version :: labels)), later) := by
  rw [versionHostname_eq, bind_of_ok h]
  exact congrArg (·, later) (Hostname.join_texts (version :: labels))

/-- The number of an instance, in front of texts. -/
theorem labelled_eq {number : Nat} (hnumber : number < Numeral.firstOversized)
    (version : String) (labels : List String) (dialogue : Dialogue) :
    (lift (Value.int number).spelled >>= fun label =>
        lift (Hostname.join (.text label :: .text version :: labels.map .text)))
          dialogue =
      (.ok (Hostname.dotted (toString number :: version :: labels)),
        dialogue) := by
  have hwritable : (Value.int number).writable = true := by
    simpa only [Value.writable, Int.natAbs_natCast, decide_eq_true_eq]
      using hnumber
  have hshown : (Value.int number).shown = toString number :=
    String.ofList_toList
  have hspelled : (Value.int number).spelled = .ok (toString number) :=
    hshown ▸ if_pos hwritable
  rw [hspelled]
  exact congrArg (·, dialogue)
    (Hostname.join_texts (toString number :: version :: labels))

/-- Where the service is the only one, the hostname of an instance is at hand
too. -/
theorem instanceHostname_of_alone {labels : List String} {number : Nat}
    (hnumber : number < Numeral.firstOversized)
    (h : suffix client (.text project) (.text moduleName) dialogue =
      (.ok (true, labels.map .text), later))
    (version : String) :
    instanceHostname client (.text project) (.text moduleName) (.text version)
      (.int number) dialogue =
      (.ok (Hostname.dotted (toString number :: version :: labels)), later) := by
  rw [instanceHostname_eq, bind_of_ok h]
  simp only [if_true, pure_bind]
  exact labelled_eq hnumber version labels later

/-- The look-up of a version is one request, in the view that holds all of its
settings. -/
theorem confirm_eq (client : Client) (project moduleName version : String)
    (number : Value) (dialogue : Dialogue) :
    confirm client (.text project) (.text moduleName)
      (.text version) number dialogue =
      ((client.told project (.version moduleName version) dialogue.replies).bind
        (checkInstance number),
        client.lookedUp project (.version moduleName version)
          (some [("view", fullView)]) dialogue) := by
  have hlookUp :=
    client.lookUp_eq project (.version moduleName version)
      (some [("view", fullView)]) dialogue
  rw [confirm, bind_lift_eq]
  rw [show mapFailure
    (translate (versionNotFound (.text moduleName) (.text version)) none)
    (client.version (.text project) (.text moduleName) (.text version) fullView)
      dialogue = _ from hlookUp]

/-- Where there are other services, the hostname of an instance takes one more
request, and depends on its reply. -/
theorem instanceHostname_of_others {labels : List String} {number : Nat}
    (hnumber : number < Numeral.firstOversized)
    (h : suffix client (.text project) (.text moduleName) dialogue =
      (.ok (false, labels.map .text), later))
    (version : String) :
    instanceHostname client (.text project) (.text moduleName) (.text version)
      (.int number) dialogue =
      (((client.told project (.version moduleName version) later.replies).bind
        (checkInstance (.int number))).map
          fun _ => Hostname.dotted (toString number :: version :: labels),
        client.lookedUp project (.version moduleName version)
          (some [("view", fullView)]) later) := by
  rw [instanceHostname_eq, bind_of_ok h]
  simp only [Bool.false_eq_true, if_false]
  have hconfirm :=
    confirm_eq client project moduleName version (.int number) later
  rcases hchecked :
    (client.told project (.version moduleName version) later.replies).bind
      (checkInstance (.int number)) with failure | found <;>
        rw [hchecked] at hconfirm
  · rw [bind_of_error hconfirm]
    rfl
  · rw [bind_of_ok hconfirm, labelled_eq hnumber]
    rfl

end Admin

/-! ## One call continues the other -/

namespace Admin

open Client

theorem applicationHostname_eq (client : Client) (project : String)
    (dialogue : Dialogue) :
    applicationHostname client (.text project) dialogue =
      ((client.told project .application dialogue.replies).bind fun record =>
          (record.get "defaultHostname").map fun name => name.orElse (.text ""),
        client.lookedUp project .application none dialogue) := by
  rw [applicationHostname, bind_lift_eq]
  rw [show mapFailure (translate (projectNotFound (.text project)) none)
    (client.application (.text project)) dialogue
    = _ from client.lookUp_eq project .application none dialogue]

/-- Whether a service is the only one of these, if it is the default service and
no other exists. -/
def standing (service : Value) (members : List Value) : Except Failure Bool :=
  if isDefaultAlone members then
    if service.equal (.text defaultService) then .ok true
      else .error (moduleNotFound service)
  else .ok false

theorem onlyDefault_eq (client : Client) (project service : Value)
    (dialogue : Dialogue) :
    onlyDefault client project service dialogue =
      ((listServices client project dialogue).1.bind (standing service),
        (listServices client project dialogue).2) := by
  have hstanding : onlyDefault client project service =
      listServices client project >>= fun members =>
        lift (standing service members) := by
    unfold onlyDefault standing
    congr 1
    funext members
    split
    · split <;> rfl
    · rfl
  rw [hstanding, bind_lift_eq]

/-- If the reply to the first request is the record of an application, its
hostname is a text or not there. -/
def NamesHost (client : Client) (project : String)
    (replies : List Reply) : Prop :=
  ∀ fields host,
    (Reply.nth replies 0).read
      (client.baseUrl ++ Resource.application.path project) =
      .ok (.record fields) →
    Value.find? "defaultHostname" fields = some host → host = .null ∨ ∃ name,
      host = .text name

/-- What is found of the hostname of an application is a text. -/
theorem NamesHost.text {client : Client} {project : String}
    {dialogue later : Dialogue} {host : Value}
    (h : NamesHost client project dialogue.replies)
    (hfound : applicationHostname client (.text project) dialogue =
      (.ok host, later)) :
    later = client.lookedUp project .application none dialogue ∧ ∃ name,
      host = .text name := by
  rw [applicationHostname_eq] at hfound
  obtain ⟨hhost, rfl⟩ := Prod.mk.inj hfound
  refine ⟨rfl, ?_⟩
  unfold told at hhost
  cases hread : (Reply.nth dialogue.replies 0).read
    (client.baseUrl ++ Resource.application.path project) with
  | error failure => simp [hread, Except.mapError, Except.bind] at hhost
  | ok record =>
      cases record with
      | record fields =>
          simp only [hread, Except.mapError, Except.bind, Value.get, Except.map,
            Except.ok.injEq] at hhost
          subst hhost
          cases hfind : Value.find? "defaultHostname" fields with
          | none => exact ⟨"", rfl⟩
          | some v =>
              rcases h fields v hread hfind with rfl | ⟨name, rfl⟩
              · exact ⟨"", rfl⟩
              · by_cases hempty : (Value.text name).truthy = true
                · exact ⟨name, if_pos hempty⟩
                · exact ⟨"", if_neg hempty⟩
      | _ =>
          simp [hread, Except.mapError, Except.bind, Value.get, Except.map] at hhost

namespace Query

/-- What a call for the hostname of a version comes to. -/
theorem versionHostname_result {client : Client}
    {project moduleName version : String} {replies : List Reply}
    {result : Except Failure String} {later : Dialogue}
    (h : Admin.versionHostname client (.text project) (.text moduleName)
      (.text version) ⟨replies, []⟩ = (result, later)) :
    (versionHostname moduleName version).sent client project replies =
      Effect.requests later.effects ∧
      (versionHostname moduleName version).outcome client project replies =
        result.map fun name => .value (.text name) := by
  simp only [sent, outcome, work, map_eq, h, and_self]

/-- What a call for the hostname of an instance comes to. -/
theorem instanceHostname_result {client : Client}
    {project moduleName version : String} {number : Int} {replies : List Reply}
    {result : Except Failure String} {later : Dialogue}
    (h : Admin.instanceHostname client (.text project) (.text moduleName)
      (.text version) (.int number) ⟨replies, []⟩ = (result, later)) :
    (instanceHostname moduleName version number).sent client project replies =
      Effect.requests later.effects ∧
      (instanceHostname moduleName version number).outcome client project replies =
        result.map fun name => .value (.text name) := by
  simp only [sent, outcome, work, map_eq, h, and_self]

section

variable {client : Client} {project moduleName : String} {replies : List Reply}
    {labels : List String}
  {later : Dialogue}

/-- Both calls, if what they begin with fails. -/
theorem results_of_failed {failure : Failure}
    (h : suffix client (.text project) (.text moduleName) ⟨replies, []⟩ =
      (.error failure, later))
    (version : String) (number : Int) :
    (versionHostname moduleName version).sent client project replies =
      Effect.requests later.effects ∧
      (instanceHostname moduleName version number).sent client project replies =
        Effect.requests later.effects ∧
      (versionHostname moduleName version).outcome client project replies =
        .error failure ∧
      (instanceHostname moduleName version number).outcome client project
        replies = .error failure := by
  obtain ⟨hversion, hinstance⟩ :=
    hostnames_of_failed h (.text version) (.int number)
  obtain ⟨hsent, houtcome⟩ := versionHostname_result hversion
  obtain ⟨hsent', houtcome'⟩ := instanceHostname_result hinstance
  exact ⟨hsent, hsent', houtcome, houtcome'⟩

/-- Both calls, if there are other services. -/
theorem results_of_others {number : Nat}
    (hnumber : number < Numeral.firstOversized)
    (h : suffix client (.text project) (.text moduleName) ⟨replies, []⟩ =
      (.ok (false, labels.map .text), later))
    (version : String) :
    (versionHostname moduleName version).sent client project replies =
      Effect.requests later.effects ∧
      (instanceHostname moduleName version number).sent client project replies =
        Effect.requests later.effects ++
        [client.lookUp project (.version moduleName version)
          (some [("view", fullView)])] ∧
      (versionHostname moduleName version).outcome client project replies =
        .ok (.value (.text (Hostname.dotted (version :: labels)))) ∧
      (instanceHostname moduleName version number).outcome client project replies =
        ((client.told project (.version moduleName version) later.replies).bind
          (checkInstance (.int number))).map
          fun _ => .value
            (.text (Hostname.dotted (toString number :: version :: labels))) := by
  obtain ⟨hsent, houtcome⟩ :=
    versionHostname_result (versionHostname_of_suffix h version)
  obtain ⟨hsent', houtcome'⟩ :=
    instanceHostname_result (instanceHostname_of_others hnumber h version)
  rw [requests_lookedUp] at hsent'
  refine ⟨hsent, hsent', houtcome, houtcome'.trans ?_⟩
  cases (client.told project (.version moduleName version) later.replies).bind
    (checkInstance (.int number)) <;> rfl

end

end Query

end Admin

end HostedModules
