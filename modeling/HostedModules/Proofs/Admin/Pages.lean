/-
HostedModules.Proofs.Admin.Pages — a list is all of its pages up to the last
one, and nothing else.

A list is asked for page by page.  Which replies it takes, what is asked for
each of them and what comes of them can be said without the loop: the last page
is the first reply that fails or names no further page.

* `Client.IsPage`, `Client.pageItems`, `Client.pageToken` — a page, what it
  lists, and the token of the next one
* `Reply.next?`, `Reply.items` — the same of a reply
* `Client.Paging` — the requests for some pages and what they come to
* `Client.collectFrom_paging`, `Client.collectFrom_upTo` — the loop takes the
  pages up to the last one
* `Admin.Listing`, `Admin.Listing.all_pages` — the two lists of the service, and
  the names in them
-/
import HostedModules.Proofs.Admin.FirstFailure
import HostedModules.Proofs.Value.Members

namespace HostedModules

/-! ## Pages -/

namespace Client

/-- The record of something listed has a text as its id, or no id. -/
def Listed (record : Value) : Prop :=
  ∃ fields, record = .record fields ∧ ∀ id, Value.find? "id" fields = some id →
    ∃ name, id = .text name

/-- If something listed has an id, it is a text. -/
theorem Listed.named {record : Value} (h : Listed record)
    (hid : ∃ id, record.item "id" = .ok id) :
    ∃ name, record.item "id" = .ok (.text name) := by
  obtain ⟨fields, rfl, htext⟩ := h
  obtain ⟨id, hid⟩ := hid
  cases hfind : Value.find? "id" fields with
  | none => simp [Value.item, hfind] at hid
  | some found =>
      obtain ⟨name, rfl⟩ := htext found hfind
      exact ⟨name, by simp only [Value.item, hfind]⟩

/-- A page is a record that lists records, or nothing. -/
def IsPage (key : String) (page : Value) : Prop :=
  ∃ fields, page = .record fields ∧ ∀ items,
    Value.find? key fields = some items →
    items = .null ∨ ∃ records, items = .list records ∧ ∀ record ∈ records,
      Listed record

/-- What a page lists. -/
def pageItems (key : String) : Value → List Value
  | .record fields =>
    match Value.find? key fields with
    | some (.list items) => items
    | _ => []
  | _ => []

/-- The token of the next page, `null` if there is none. -/
def pageToken : Value → Value
  | .record fields => (Value.find? "nextPageToken" fields).getD .null
  | _ => .null

theorem IsPage.listed {key : String} {page : Value} (h : IsPage key page) :
    ∀ record ∈ pageItems key page, Listed record := by
  obtain ⟨fields, rfl, hitems⟩ := h
  intro record hmem
  cases hfind : Value.find? key fields with
  | none => simp [pageItems, hfind] at hmem
  | some items =>
      rcases hitems items hfind with rfl | ⟨records, rfl, hlisted⟩
      · simp [pageItems, hfind] at hmem
      · simp only [pageItems, hfind] at hmem
        exact hlisted record hmem

/-- What is read of a page: its items behind those found before, and its token
if it has one. -/
theorem readPage_eq {key : String} {page : Value} (h : IsPage key page)
    (found : List Value) :
    readPage key found page =
      .ok (found ++ pageItems key page, if (pageToken page).truthy then
        some (pageToken page) else none) := by
  obtain ⟨fields, rfl, hitems⟩ := h
  have helements :
      (((Value.find? key fields).getD .null).orElse (.list [])).elements =
      .ok (pageItems key (.record fields)) := by
    cases hfind : Value.find? key fields with
    | none => simp only [pageItems, hfind]; rfl
    | some items =>
        rcases hitems items hfind with rfl | ⟨records, rfl, -⟩
        · simp only [pageItems, hfind]; rfl
        · cases records <;> simp only [pageItems, hfind] <;> rfl
  show (do
    let items ← (((Value.find? key fields).getD .null).orElse
      (.list [])).elements
    let token ← Except.ok ((Value.find? "nextPageToken" fields).getD .null)
    pure (found ++ items, if token.truthy then some token else none)) = _
  rw [helements]
  rfl

end Client

namespace Json

/-- One token of a text after the other. -/
theorem tokens_cons {c : Char} {rest after : List Char} {token : Token}
    {later : List Token} (h : cut c rest = (some token, after))
    (hjunk : token ≠ .junk) (hlater : tokens after = later) :
    tokens (c :: rest) = token :: later := by
  rw [tokens, h, ← hlater]
  cases token <;> first | rfl | exact absurd rfl hjunk

theorem tokens_nil : tokens [] = [] := by rw [tokens]

end Json

namespace Reply

/-- The token of the page that follows the one in a reply, if the reply holds a
page that names one. -/
def next? (url : String) (reply : Reply) : Option Value :=
  match reply.read url with
  | .ok page =>
      if (Client.pageToken page).truthy then some (Client.pageToken page) else none
  | .error _ => none

/-- What the page in a reply lists. -/
def items (url key : String) (reply : Reply) : List Value :=
  match reply.read url with
  | .ok page => Client.pageItems key page
  | .error _ => []

/-- A reply with a body of these tokens holds the value that is read from
them. -/
theorem read_tokens {url body : String} {reason : Option String}
    {tokens : List Json.Token} {v : Value} (hbody : body.isEmpty = false)
    (htokens : Json.tokens body.toList = tokens)
    (hread : Json.read [] .value tokens = .ok v) :
    (Reply.response 200 reason body).read url = .ok v := by
  simp only [Reply.read, Reply.content, hbody, Json.parse, htokens, hread]
  rfl

end Reply

namespace Client

/-- The request for a page of a list. -/
def pageRequest (client : Client) (path : String)
    (params : List (String × Value)) : Request :=
  ⟨"GET", client.baseUrl ++ path, some params, none⟩

/-- All that some replies list, from the first to the one of this number. -/
def listedUpTo (url key : String) (replies : List Reply)
    (last : Nat) : List Value :=
  (List.range (last + 1)).flatMap fun k => (Reply.nth replies k).items url key

theorem listedUpTo_succ (url key : String) (reply : Reply)
    (replies : List Reply) (last : Nat) :
    listedUpTo url key (reply :: replies) (last + 1) =
      reply.items url key ++ listedUpTo url key replies last := by
  unfold listedUpTo
  rw [List.range_succ_eq_map, List.flatMap_cons, List.flatMap_map]
  rfl

/-- All that is listed by pages is a record with a text as its id, or no id. -/
theorem listed_listedUpTo {url key : String} {replies : List Reply}
    (hpages : ∀ reply ∈ replies, ∀ page, reply.read url = .ok page →
      IsPage key page)
    (last : Nat) :
    ∀ record ∈ listedUpTo url key replies last, Listed record := by
  intro record hrecord
  obtain ⟨k, -, hitem⟩ := List.mem_flatMap.1 hrecord
  unfold Reply.items at hitem
  split at hitem
  · next page hpage =>
      cases hreply : replies[k]? with
      | none =>
          rw [Reply.nth, hreply] at hpage
          obtain rfl := Except.ok.inj hpage
          cases hitem
      | some reply =>
          rw [Reply.nth, hreply] at hpage
          exact (hpages reply (List.mem_of_getElem? hreply) page hpage).listed
            record hitem
  · cases hitem

/-- The pages up to the last one have been asked for, each by the token in the
reply before, and have come to an outcome. -/
structure Paging (client : Client) (path key : String)
    (params : List (String × Value)) (found : List Value) (dialogue : Dialogue)
    (last : Nat) (outcome : Except Failure (List Value)) (later : Dialogue)
    (requests : List Request) : Prop where
  stops : (Reply.nth dialogue.replies last).next? (client.baseUrl ++ path) = none
  goes : ∀ k < last, ∃ token,
    (Reply.nth dialogue.replies k).next? (client.baseUrl ++ path) = some token
  sent : Effect.requests later.effects = Effect.requests dialogue.effects ++ requests
  count : requests.length = last + 1
  first : requests[0]? = some (client.pageRequest path params)
  following : ∀ k < last, ∀ token,
    (Reply.nth dialogue.replies k).next? (client.baseUrl ++ path) = some token →
      requests[k + 1]? = some (client.pageRequest path (pageParams token))
  unread : later.replies = dialogue.replies.drop (last + 1)
  failed : ∀ failure,
    (Reply.nth dialogue.replies last).read (client.baseUrl ++ path) =
    .error failure →
    outcome = .error failure
  read : ∀ page,
    (Reply.nth dialogue.replies last).read (client.baseUrl ++ path) = .ok page →
    outcome = .ok (found ++
      listedUpTo (client.baseUrl ++ path) key dialogue.replies last)

/-- One page, which is the last one. -/
theorem paging_one {client : Client} {path key : String}
    {params : List (String × Value)} {found : List Value} {dialogue : Dialogue}
    {outcome : Except Failure (List Value)}
    (hstops : (Reply.nth dialogue.replies 0).next? (client.baseUrl ++ path) = none)
    (hfailed : ∀ failure,
      (Reply.nth dialogue.replies 0).read (client.baseUrl ++ path) =
      .error failure → outcome = .error failure)
    (hread : ∀ page,
      (Reply.nth dialogue.replies 0).read (client.baseUrl ++ path) = .ok page →
      outcome = .ok (found ++ (Reply.nth dialogue.replies 0).items
      (client.baseUrl ++ path) key)) :
    Paging client path key params found dialogue 0 outcome
      ⟨dialogue.replies.drop 1,
        dialogue.effects ++ client.requestEffects "GET" path (some params) none⟩
      [client.pageRequest path params] where
  stops := hstops
  goes := fun k hk => absurd hk (Nat.not_lt_zero k)
  sent := Effect.requests_append _ _
  count := rfl
  first := rfl
  following := fun k hk => absurd hk (Nat.not_lt_zero k)
  unread := rfl
  failed := hfailed
  read := fun page hpage => by simpa [listedUpTo] using hread page hpage

/-- One page, and the pages that follow it. -/
theorem Paging.cons {client : Client} {path key : String}
    {params : List (String × Value)} {found : List Value} {reply : Reply}
    {rest : List Reply} {effects : List Effect} {token : Value} {last : Nat}
    {outcome : Except Failure (List Value)} {later : Dialogue}
    {requests : List Request}
    (hnext : reply.next? (client.baseUrl ++ path) = some token)
    (h : Paging client path key (pageParams token)
      (found ++ reply.items (client.baseUrl ++ path) key) ⟨rest,
        effects ++ client.requestEffects "GET" path (some params) none⟩ last
        outcome later requests) :
    Paging client path key params found ⟨reply :: rest, effects⟩
      (last + 1) outcome later
      (client.pageRequest path params :: requests) where
  stops := h.stops
  goes := by
    intro k hk
    cases k with
    | zero => exact ⟨token, hnext⟩
    | succ k => exact h.goes k (Nat.lt_of_succ_lt_succ hk)
  sent := by
    rw [h.sent, Effect.requests_append]
    simp [Effect.requests, requestEffects, pageRequest]
  count := by rw [List.length_cons, h.count]
  first := rfl
  following := by
    intro k hk token' htoken
    cases k with
    | zero =>
        obtain rfl : token = token' := Option.some.inj (hnext.symm.trans htoken)
        exact h.first
    | succ k => exact h.following k (Nat.lt_of_succ_lt_succ hk) token' htoken
  unread := h.unread
  failed := h.failed
  read := by
    intro page hpage
    rw [h.read page hpage, listedUpTo_succ, List.append_assoc]

/-- The loop takes the pages up to the last one. -/
theorem collectFrom_paging (client : Client) (path key : String)
    (params : List (String × Value)) (found : List Value)
    (effects : List Effect) (replies : List Reply)
    (hpages : ∀ reply ∈ replies, ∀ page, reply.read (client.baseUrl ++ path) =
      .ok page → IsPage key page) :
    ∃ last requests, Paging client path key params found ⟨replies, effects⟩ last
      (client.collectFrom path key params found effects replies).1
      (client.collectFrom path key params found effects replies).2 requests := by
  fun_induction client.collectFrom path key params found effects replies with
  | case1 params found effects now =>
      refine ⟨0, _, paging_one rfl (fun failure hread => by cases hread)
        fun page hread => ?_⟩
      exact congrArg Except.ok (List.append_nil found).symm
  | case2 params found effects reply rest now failure hpage =>
      refine ⟨0, _, paging_one ?_ (fun other hread => ?_) fun page hread => ?_⟩
      · simp only [Reply.nth, List.getElem?_cons_zero, Option.getD_some,
          Reply.next?, hpage]
      · exact congrArg _ (Except.error.inj (hpage.symm.trans hread))
      · exact absurd (hpage.symm.trans hread) (by simp)
  | case3 params found effects reply rest now page hpage failure hread =>
      rw [readPage_eq (hpages reply List.mem_cons_self page hpage)] at hread
      cases hread
  | case4 params found effects reply rest now page hpage found' hread =>
      rw [readPage_eq (hpages reply List.mem_cons_self page hpage)] at hread
      obtain ⟨rfl, htoken⟩ := Prod.mk.inj (Except.ok.inj hread)
      refine ⟨0, _, paging_one ?_ (fun other hother => ?_) fun page hread => ?_⟩
      · simp only [Reply.nth, List.getElem?_cons_zero, Option.getD_some,
          Reply.next?, hpage]
        exact htoken
      · exact absurd (hpage.symm.trans hother) (by simp)
      · simp only [Reply.nth, List.getElem?_cons_zero, Option.getD_some,
          Reply.items, hpage]
  | case5 params found effects reply rest now page hpage found' token hread ih =>
      rw [readPage_eq (hpages reply List.mem_cons_self page hpage)] at hread
      obtain ⟨rfl, htoken⟩ := Prod.mk.inj (Except.ok.inj hread)
      obtain ⟨last, requests, hrest⟩ := ih fun reply hmem =>
        hpages reply (List.mem_cons_of_mem _ hmem)
      have hnext : reply.next? (client.baseUrl ++ path) = some token := by
        simp only [Reply.next?, hpage]
        exact htoken
      have hitems : pageItems key page =
          reply.items (client.baseUrl ++ path) key := by
        simp only [Reply.items, hpage]
      rw [hitems] at hrest ⊢
      exact ⟨last + 1, _, hrest.cons hnext⟩

/-- All pages are asked for at the address of the list. -/
theorem Paging.url {client : Client} {path key : String}
    {params : List (String × Value)} {found : List Value}
    {dialogue later : Dialogue} {last : Nat}
    {outcome : Except Failure (List Value)} {requests : List Request}
    (h : Paging client path key params found dialogue last outcome later
      requests) :
    ∀ request ∈ requests, request.url = client.baseUrl ++ path := by
  intro request hmem
  obtain ⟨k, hrequest⟩ := List.mem_iff_getElem?.1 hmem
  cases k with
  | zero =>
      obtain rfl := Option.some.inj (h.first.symm.trans hrequest)
      rfl
  | succ k =>
      have hlt : k + 1 < requests.length :=
        (List.getElem?_eq_some_iff.1 hrequest).1
      rw [h.count] at hlt
      obtain ⟨token, htoken⟩ := h.goes k (Nat.lt_of_succ_lt_succ hlt)
      obtain rfl := Option.some.inj
        ((h.following k (Nat.lt_of_succ_lt_succ hlt) token htoken).symm.trans hrequest)
      rfl

/-- The loop takes the pages up to the one that names no further page, whatever
the replies after it are. -/
theorem collectFrom_upTo (client : Client) (path key : String)
    (params : List (String × Value)) (found : List Value)
    (effects : List Effect) (replies : List Reply) (last : Nat)
    (hpages : ∀ k ≤ last, ∃ page,
      (Reply.nth replies k).read (client.baseUrl ++ path) = .ok page ∧
      IsPage key page)
    (hgoes : ∀ k < last, ∃ token,
      (Reply.nth replies k).next? (client.baseUrl ++ path) = some token)
    (hstops : (Reply.nth replies last).next? (client.baseUrl ++ path) = none) :
    ∃ requests, Paging client path key params found ⟨replies, effects⟩ last
      (client.collectFrom path key params found effects replies).1
      (client.collectFrom path key params found effects replies).2 requests := by
  -- by the number of the last page: what was found and asked for before it
  -- differs from page to page
  induction last generalizing params found effects replies with
  | zero =>
      obtain ⟨page, hpage, hispage⟩ := hpages 0 (Nat.le_refl 0)
      have hcollected :
          client.collectFrom path key params found effects replies =
          (.ok (found ++ (Reply.nth replies 0).items
            (client.baseUrl ++ path) key),
            ⟨replies.drop 1,
              effects ++ client.requestEffects "GET" path
              (some params) none⟩) := by
        cases replies with
        | nil =>
            exact congrArg (fun items => (Except.ok items, _))
              (List.append_nil found).symm
        | cons reply rest =>
            have hread : reply.read (client.baseUrl ++ path) = .ok page := hpage
            have hnone : (if (pageToken page).truthy then some (pageToken page)
                else none) = none := by
              simpa only [Reply.next?, hpage] using hstops
            rw [collectFrom, hread]
            simp only [readPage_eq hispage, hnone, Reply.items, hpage]
            rfl
      rw [hcollected]
      refine ⟨_, paging_one hstops ?_ fun _ _ => rfl⟩
      intro failure hfailure
      rw [hpage] at hfailure
      cases hfailure
  | succ last ih =>
      obtain ⟨token, htoken⟩ := hgoes 0 (Nat.succ_pos last)
      obtain ⟨page, hpage, hispage⟩ := hpages 0 (Nat.zero_le _)
      cases replies with
      | nil => cases htoken
      | cons reply rest =>
          have hread : reply.read (client.baseUrl ++ path) = .ok page := hpage
          have hsome : (if (pageToken page).truthy then some (pageToken page)
              else none) = some token := by
            simpa only [Reply.next?, hpage] using htoken
          have hitems : pageItems key page =
              reply.items (client.baseUrl ++ path) key := by
            simp only [Reply.items, hread]
          rw [collectFrom, hread]
          simp only [readPage_eq hispage, hsome, hitems]
          obtain ⟨requests, hrest⟩ := ih (pageParams token)
            (found ++ reply.items (client.baseUrl ++ path) key)
            (effects ++ client.requestEffects "GET" path (some params) none) rest
            (fun k hk => hpages (k + 1) (Nat.succ_le_succ hk))
              (fun k hk => hgoes (k + 1) (Nat.succ_lt_succ hk))
            hstops
          exact ⟨_, hrest.cons htoken⟩

end Client

/-! ## Names -/

namespace Admin

open Client

/-- All members of a set are texts. -/
def Texts (members : List Value) : Prop := ∀ v ∈ members, ∃ name, v = .text name

/-- One name more in a set of names. -/
theorem mem_addMember_text {members : List Value} (h : Texts members)
    (hnodup : members.Nodup) (name : String) :
    Texts (Value.addMember members (.text name)) ∧
      (Value.addMember members (.text name)).Nodup ∧
      ∀ v, v ∈ Value.addMember members (.text name) ↔ v ∈ members ∨
        v = .text name := by
  unfold Value.addMember
  split
  · next hhas =>
      refine ⟨h, hnodup, fun v => ⟨Or.inl, ?_⟩⟩
      rintro (hmem | rfl)
      · exact hmem
      · exact Value.hasMember_text.1 hhas
  · next hhas =>
      refine ⟨fun v hmem => ?_, ?_, fun v => by simp⟩
      · rcases List.mem_append.1 hmem with hmem | hmem
        · exact h v hmem
        · exact ⟨name, List.mem_singleton.1 hmem⟩
      · have hnew : .text name ∉ members := fun hmem =>
          hhas (Value.hasMember_text.2 hmem)
        refine List.nodup_append.2 ⟨hnodup, List.pairwise_singleton _ _,
          fun v hv w hw => ?_⟩
        obtain rfl := List.mem_singleton.1 hw
        rintro rfl
        exact hnew hv

/-- If every record has a text as its id, the ids are collected, each once. -/
theorem idsFrom_ok :
    ∀ (records : List Value) {members : List Value}, Texts members →
      members.Nodup →
    (∀ record ∈ records, ∃ name, record.item "id" = .ok (.text name)) →
    ∃ ids, idsFrom members records = .ok ids ∧ ids.Nodup ∧
      ∀ v, v ∈ ids ↔ v ∈ members ∨ ∃ record ∈ records, record.item "id" = .ok v
  | [], members, _, hnodup, _ => ⟨members, rfl, hnodup, fun v => by simp⟩
  | record :: rest, members, htexts, hnodup, hnamed => by
      obtain ⟨name, hname⟩ := hnamed record List.mem_cons_self
      obtain ⟨htexts', hnodup', hmember⟩ :=
        mem_addMember_text htexts hnodup name
      obtain ⟨ids, hids, hdistinct, hmem⟩ := idsFrom_ok rest htexts' hnodup'
        fun record hmem => hnamed record (List.mem_cons_of_mem _ hmem)
      refine ⟨ids, ?_, hdistinct, fun v => ?_⟩
      · simp only [idsFrom, hname]
        exact hids
      · rw [hmem, hmember, List.exists_mem_cons_iff, hname, or_assoc,
          Except.ok.injEq, eq_comm (a := v)]

/-- If one of the records has no id, it is missed. -/
theorem idsFrom_missing :
    ∀ (records members : List Value), (∀ record ∈ records, Listed record) →
    (∃ record ∈ records, ∀ id, record.item "id" ≠ .ok id) →
    idsFrom members records = .error (.missingKey "id")
  | [], _, _, hmissing => by
      obtain ⟨record, hmem, -⟩ := hmissing
      exact nomatch hmem
  | record :: rest, members, hlisted, hmissing => by
      obtain ⟨fields, rfl, hid⟩ := hlisted record List.mem_cons_self
      cases hfind : Value.find? "id" fields with
      | none => simp only [idsFrom, Value.item, hfind]
      | some id =>
          obtain ⟨name, rfl⟩ := hid id hfind
          obtain ⟨other, hmem, hnone⟩ := hmissing
          rcases List.mem_cons.1 hmem with rfl | hmem
          · exact absurd (show Value.item (.record fields) "id" =
              .ok (.text name) by
              simp only [Value.item, hfind]) (hnone _)
          · simp only [idsFrom, Value.item, hfind]
            exact idsFrom_missing rest _
              (fun record hmem => hlisted record (List.mem_cons_of_mem _ hmem))
              ⟨other, hmem, hnone⟩

/-! ## Lists of the service -/

/-- What the service lists. -/
inductive Listing where
  | services
  | versions (moduleName : String)

namespace Listing

/-- What a list is requested as. -/
def resource : Listing → Resource
  | .services => .services
  | .versions moduleName => .versions moduleName

/-- The field of a page that holds its items. -/
def key : Listing → String
  | .services => "services"
  | .versions _ => "versions"

/-- The records of a list. -/
def records (client : Client) (project : String) :
    Listing → Exchange (List Value)
  | .services => client.services (.text project)
  | .versions moduleName => client.versions (.text project) (.text moduleName)

/-- The names in a list. -/
def names (client : Client) (project : String) : Listing → Exchange (List Value)
  | .services => listServices client (.text project)
  | .versions moduleName =>
      listVersions client (.text project) (.text moduleName)

/-- Where a list is found. -/
def url (client : Client) (project : String) (listing : Listing) : String :=
  client.baseUrl ++ listing.resource.path project

/-- The records of a list are collected from where the list is found. -/
theorem records_eq (client : Client) (project : String) (listing : Listing)
    (dialogue : Dialogue) :
    listing.records client project dialogue =
      client.collect (listing.resource.path project) listing.key dialogue := by
  have hpath : Exchange.lift
    (Path.resource (.text project) (listing.resource.parts.map .text))
    dialogue =
      (.ok (listing.resource.path project), dialogue) := by
    rw [Resource.resource_eq_path]
    rfl
  cases listing with
  | services => exact Exchange.bind_of_ok hpath
  | versions moduleName => exact Exchange.bind_of_ok hpath

/-- The names of a list are the ids of its records. -/
theorem names_eq (client : Client) (project : String) (listing : Listing)
    {dialogue later : Dialogue} {records : List Value}
    (h : listing.records client project dialogue = (.ok records, later)) :
    listing.names client project dialogue = (ids records, later) := by
  cases listing with
  | services =>
      have htranslated :
          Exchange.mapFailure (translate (projectNotFound (.text project)) none)
          (client.services (.text project)) dialogue = (.ok records, later) := by
        unfold Exchange.mapFailure
        rw [show client.services (.text project) dialogue = _ from h]
      exact Exchange.bind_of_ok htranslated
  | versions moduleName =>
      have htranslated :
          Exchange.mapFailure
          (translate (moduleNotFound (.text moduleName)) none)
          (client.versions (.text project) (.text moduleName)) dialogue =
            (.ok records, later) := by
        unfold Exchange.mapFailure
        rw [show client.versions (.text project) (.text moduleName) dialogue = _ from h]
      exact Exchange.bind_of_ok htranslated

/-- **A list is its pages up to the last one.**  The last page is the first
reply that fails or names no further page.  So many requests are sent, all to
the address of the list, each but the first with the token in the reply before.
If the last reply fails, so does the list; otherwise it consists of what the
pages list, in their order, and the names are the ids of all that is listed,
unless some of it has none. -/
theorem all_pages (listing : Listing) (client : Client) (project : String)
    (dialogue : Dialogue)
    (hpages : ∀ reply ∈ dialogue.replies, ∀ page,
      reply.read (listing.url client project) = .ok page →
      IsPage listing.key page) :
    ∃ last requests,
      Paging client (listing.resource.path project) listing.key []
        [] dialogue last
        (listing.records client project dialogue).1
          (listing.records client project dialogue).2 requests ∧
      ∀ page, (Reply.nth dialogue.replies last).read
        (listing.url client project) = .ok page →
        (listing.names client project dialogue).2 =
          (listing.records client project dialogue).2 ∧
        ((∀ record ∈ listedUpTo (listing.url client project) listing.key
          dialogue.replies last,
            ∃ id, record.item "id" = .ok id) →
          ∃ members, (listing.names client project dialogue).1 = .ok members ∧
            members.Nodup ∧
            ∀ v, v ∈ members ↔
              ∃ record ∈ listedUpTo (listing.url client project) listing.key
                dialogue.replies last,
                record.item "id" = .ok v) ∧
        ((∃ record ∈ listedUpTo (listing.url client project) listing.key
          dialogue.replies last,
            ∀ id, record.item "id" ≠ .ok id) →
          (listing.names client project dialogue).1 =
            .error (.missingKey "id")) := by
  obtain ⟨last, requests, hpaging⟩ :=
    collectFrom_paging client (listing.resource.path project) listing.key
    [] [] dialogue.effects dialogue.replies hpages
  have hrecords := listing.records_eq client project dialogue
  refine ⟨last, requests, hrecords ▸ hpaging, fun page hpage => ?_⟩
  have hall := hpaging.read page hpage
  have hlisted := listed_listedUpTo hpages last
  have hnames :=
    listing.names_eq client project (hrecords.trans (Prod.ext hall rfl))
  rw [hnames, hrecords]
  refine ⟨rfl, fun hids => ?_,
    fun hmissing => idsFrom_missing _ _ hlisted hmissing⟩
  have hnone : Texts [] := fun v hv => nomatch hv
  obtain ⟨members, hmembers, hnodup, hmem⟩ := idsFrom_ok _ hnone .nil
    fun record hrecord => (hlisted record hrecord).named (hids record hrecord)
  refine ⟨members, hmembers, hnodup, fun v => ?_⟩
  rw [hmem]
  simp only [List.not_mem_nil, false_or]

/-- A page that lists nothing and names the next one. -/
def namingPage : Reply := .response 200 none "\x7b\"nextPageToken\":\"b\"\x7d"

theorem namingPage_read (url : String) :
    namingPage.read url = .ok (.record [("nextPageToken", .text "b")]) := by
  have htokens : Json.tokens "\x7b\"nextPageToken\":\"b\"\x7d".toList =
      [.openRecord, .string "nextPageToken", .colon, .string "b",
        .closeRecord] :=
    Json.tokens_cons rfl (by nofun) <| Json.tokens_cons rfl (by nofun) <|
      Json.tokens_cons rfl (by nofun) <|
      Json.tokens_cons rfl (by nofun) <|
        Json.tokens_cons rfl (by nofun) Json.tokens_nil
  exact Reply.read_tokens rfl htokens rfl

/-- A page that lists one service. -/
def lastPage : Reply :=
  .response 200 none "\x7b\"services\":[\x7b\"id\":\"web\"\x7d]\x7d"

theorem lastPage_read (url : String) :
    lastPage.read url =
      .ok (.record [("services", .list [.record [("id", .text "web")]])]) := by
  have htokens :
      Json.tokens "\x7b\"services\":[\x7b\"id\":\"web\"\x7d]\x7d".toList =
      [.openRecord, .string "services", .colon, .openList, .openRecord,
        .string "id", .colon, .string "web",
        .closeRecord, .closeList, .closeRecord] :=
    Json.tokens_cons rfl (by nofun) <| Json.tokens_cons rfl (by nofun) <|
      Json.tokens_cons rfl (by nofun) <|
      Json.tokens_cons rfl (by nofun) <| Json.tokens_cons rfl (by nofun) <|
        Json.tokens_cons rfl (by nofun) <|
      Json.tokens_cons rfl (by nofun) <| Json.tokens_cons rfl (by nofun) <|
        Json.tokens_cons rfl (by nofun) <|
      Json.tokens_cons rfl (by nofun) <|
        Json.tokens_cons rfl (by nofun) Json.tokens_nil
  exact Reply.read_tokens rfl htokens rfl

/-- The second page is asked for by the token in the first, and holds the only
name. -/
theorem all_pages_of_two : ∃ members later,
    Listing.services.names ⟨"", none⟩ "shop" ⟨[namingPage, lastPage], []⟩ =
      (.ok members, later) ∧
    (∀ v, v ∈ members ↔ v = .text "web") ∧
    Effect.requests later.effects =
      [⟨"GET", "apps/shop/services", some [], none⟩,
       ⟨"GET", "apps/shop/services", some [("pageToken", .text "b")], none⟩] := by
  have hpages : ∀ reply ∈ [namingPage, lastPage], ∀ page,
      reply.read (Listing.services.url ⟨"", none⟩ "shop") = .ok page →
        IsPage "services" page := by
    intro reply hmem page hpage
    rcases List.mem_cons.1 hmem with rfl | hmem
    · rw [namingPage_read] at hpage
      obtain rfl := Except.ok.inj hpage
      exact ⟨_, rfl, fun items hitems => by cases hitems⟩
    · obtain rfl := List.mem_singleton.1 hmem
      rw [lastPage_read] at hpage
      obtain rfl := Except.ok.inj hpage
      refine ⟨_, rfl,
        fun items hitems =>
        .inr ⟨_, (Option.some.inj hitems).symm, fun record hrecord => ?_⟩⟩
      obtain rfl := List.mem_singleton.1 hrecord
      exact ⟨_, rfl, fun id hid => ⟨"web", (Option.some.inj hid).symm⟩⟩
  obtain ⟨last, requests, hpaging, hnames⟩ :=
    all_pages .services ⟨"", none⟩ "shop" ⟨[namingPage, lastPage], []⟩ hpages
  have hfirst : namingPage.next? (Listing.services.url ⟨"", none⟩ "shop") =
      some (.text "b") := by
    rw [Reply.next?, namingPage_read]
    rfl
  have hlast : lastPage.next? (Listing.services.url ⟨"", none⟩ "shop") = none := by
    rw [Reply.next?, lastPage_read]
    rfl
  obtain rfl : last = 1 := by
    rcases Nat.lt_trichotomy last 1 with hlt | rfl | hlt
    · obtain rfl : last = 0 := by omega
      exact absurd (hfirst.symm.trans hpaging.stops) (by simp)
    · rfl
    · obtain ⟨token, htoken⟩ := hpaging.goes 1 hlt
      exact absurd (hlast.symm.trans htoken) (by simp)
  obtain ⟨hlater, hids, -⟩ := hnames _ (lastPage_read _)
  have hall : listedUpTo (Listing.services.url ⟨"", none⟩ "shop") "services"
    [namingPage, lastPage] 1 =
      [.record [("id", .text "web")]] := by
    show namingPage.items _ "services" ++ (lastPage.items _ "services" ++ []) = _
    rw [Reply.items, Reply.items, namingPage_read, lastPage_read]
    rfl
  obtain ⟨members, hmembers, -, hmem⟩ := hids fun record hrecord => by
    obtain rfl := List.mem_singleton.1 (hall ▸ hrecord)
    exact ⟨_, rfl⟩
  refine ⟨members, _, Prod.ext hmembers hlater, fun v => ?_, ?_⟩
  · rw [hmem]
    show (∃ record ∈ listedUpTo _ "services" [namingPage, lastPage] 1, _) ↔ _
    rw [hall]
    simp [Value.item, Value.find?, eq_comm]
  · rw [hpaging.sent]
    obtain ⟨one, two, rfl⟩ := List.length_eq_two.1 hpaging.count
    obtain rfl := Option.some.inj hpaging.first
    obtain rfl := Option.some.inj (hpaging.following 0 Nat.zero_lt_one _ hfirst)
    rfl

end Listing
end Admin
end HostedModules
