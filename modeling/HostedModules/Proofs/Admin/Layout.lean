/-
HostedModules.Proofs.Admin.Layout — what hostnames are made of.

An application tells its hostname and its services, the services page by page.
What is made of this does not depend on how many pages there are, only on
whether the default service is the only one.

* `Admin.Tells` — what the replies tell of an application, its services as a set
* `Admin.Tells.suffix` — what follows the version in both hostnames
* `Admin.Counts` — how many instances the record of a version counts, if it
  counts them
* `Admin.Counts.checkInstance` — an instance is found exactly if its number is
  less than the count
* `Admin.hostname_layout` — both hostnames, or why there is none
-/
import Mathlib.Data.Set.Insert
import HostedModules.Proofs.Admin.Hostnames
import HostedModules.Proofs.Value.Order

namespace HostedModules

/-- Of defined quantities, one is at most another exactly if the other is not
less. -/
theorem Quantity.less_or_equal {p q : Quantity} (hp : p ≠ .undefined)
    (hq : q ≠ .undefined) :
    (p.less q || p.equal q) = !q.less p := by
  cases p <;> cases q <;> simp [less, equal] at hp hq ⊢
  rw [Bool.eq_iff_iff]
  simp
  omega

theorem Quantity.ofInt_defined (n : Int) : ofInt n ≠ .undefined := by
  intro h
  cases h

open Exchange

namespace Admin

open Client

/-! ## What an application tells -/

/-- The replies tell the hostname of an application, empty if it has none, and
then its services, page by page up to the last one. -/
structure Tells (client : Client) (project : String) (replies : List Reply)
    (hostname : String) (services : Set String) (last : Nat) : Prop where
  host : ∃ fields,
    (Reply.nth replies 0).read
      (client.baseUrl ++ Resource.application.path project) =
      .ok (.record fields) ∧
      (Value.find? "defaultHostname" fields = some (.text hostname) ∨
        (Value.find? "defaultHostname" fields).getD .null = .null ∧
          hostname = "")
  pages : ∀ k ≤ last, ∃ page,
    (Reply.nth replies (k + 1)).read (Listing.services.url client project) =
      .ok page ∧ IsPage "services" page
  goes : ∀ k < last, ∃ token,
    (Reply.nth replies (k + 1)).next? (Listing.services.url client project) =
      some token
  stops : (Reply.nth replies (last + 1)).next?
    (Listing.services.url client project) = none
  named : ∀ record ∈ listedUpTo (Listing.services.url client project) "services"
    (replies.drop 1) last,
    ∃ name, record.item "id" = .ok (.text name)
  members : ∀ name, name ∈ services ↔
    ∃ record ∈ listedUpTo (Listing.services.url client project) "services"
      (replies.drop 1) last,
      record.item "id" = .ok (.text name)

variable {client : Client} {project : String} {replies : List Reply}
    {hostname : String} {services : Set String}
  {last : Nat}

theorem Tells.applicationHostname
    (h : Tells client project replies hostname services last) :
    applicationHostname client (.text project) ⟨replies, []⟩ =
      (.ok (.text hostname),
        client.lookedUp project .application none ⟨replies, []⟩) := by
  obtain ⟨fields, hread, hhost⟩ := h.host
  have hkept : ((Value.find? "defaultHostname" fields).getD .null).orElse
      (.text "") = .text hostname := by
    rcases hhost with hsome | ⟨hnull, rfl⟩
    · rw [hsome, Option.getD_some, Value.orElse]
      split
      · rfl
      · next hempty =>
          have : hostname = "" := by simpa [Value.truthy] using hempty
          rw [this]
    · rw [hnull]
      rfl
  rw [applicationHostname_eq, told, hread]
  exact congrArg (fun host => (Except.ok host, _)) hkept

/-- The members read off the records are the names of the services. -/
theorem Tells.mem_iff (h : Tells client project replies hostname services last)
    {members : List Value}
    (hmembers : ∀ v, v ∈ members ↔
      ∃ record ∈ listedUpTo (Listing.services.url client project) "services"
      (replies.drop 1) last, record.item "id" = .ok v)
    (v : Value) : v ∈ members ↔ ∃ name ∈ services, v = .text name := by
  constructor
  · intro hmem
    obtain ⟨record, hrecord, hid⟩ := (hmembers v).1 hmem
    obtain ⟨name, hname⟩ := h.named record hrecord
    obtain rfl := Except.ok.inj (hid.symm.trans hname)
    exact ⟨name, (h.members name).2 ⟨record, hrecord, hname⟩, rfl⟩
  · rintro ⟨name, hname, rfl⟩
    exact (hmembers _).2 ((h.members name).1 hname)

/-- The default service is the only member if it is the only service. -/
theorem isDefaultAlone_members {members : List Value} (h : Distinct members)
    {services : Set String}
    (hmembers : ∀ v, v ∈ members ↔ ∃ name ∈ services, v = .text name) :
    isDefaultAlone members = true ↔ services = {defaultService} := by
  simp only [isDefaultAlone_iff h, hmembers]
  constructor
  · intro hall
    ext name
    simpa using hall (.text name)
  · rintro rfl v
    simp

/-- The services are listed by one request for each page, and the default
service is alone if it is all of them. -/
theorem Tells.listServices
    (h : Tells client project replies hostname services last) :
    ∃ members later pages,
      Admin.listServices client (.text project)
        (client.lookedUp project .application none ⟨replies, []⟩) =
        (.ok members, later) ∧
      (∀ v, v ∈ members ↔ ∃ name ∈ services, v = .text name) ∧
      (isDefaultAlone members = true ↔ services = {defaultService}) ∧
      later.replies = replies.drop (last + 2) ∧
      Effect.requests later.effects = client.lookUp project .application none :: pages ∧
      pages.length = last + 1 ∧
      ∀ request ∈ pages,
        request.url = client.baseUrl ++ Resource.services.path project := by
  have hnth : ∀ k, Reply.nth (replies.drop 1) k = Reply.nth replies (k + 1) := by
    intro k
    rw [Reply.nth_drop, Nat.add_comm]
  obtain ⟨pages, hpaging⟩ :=
    client.collectFrom_upTo (Resource.services.path project) "services" [] []
    (client.lookedUp project .application none ⟨replies, []⟩).effects
      (replies.drop 1) last
    (fun k hk => hnth k ▸ h.pages k hk) (fun k hk => hnth k ▸ h.goes k hk)
      (hnth last ▸ h.stops)
  obtain ⟨page, hpage, -⟩ := h.pages last (Nat.le_refl last)
  have hrecords := Listing.services.records_eq client project
    (client.lookedUp project .application none ⟨replies, []⟩)
  have hnames := Listing.services.names_eq client project
    (hrecords.trans (Prod.ext (hpaging.read page (hnth last ▸ hpage)) rfl))
  have hnone : Texts [] := fun v hv => nomatch hv
  obtain ⟨members, hids, -, hmembers⟩ := idsFrom_ok _ hnone .nil h.named
  have hlist := hnames.trans (congrArg (·, _) hids)
  have hdistinct : Distinct members :=
    Distinct.listServices (congrArg Prod.fst hlist)
  have hmem := h.mem_iff fun v => by simpa using hmembers v
  refine ⟨members, _, pages, hlist, hmem, isDefaultAlone_members hdistinct hmem,
    ?_, ?_, hpaging.count, hpaging.url⟩
  · have hdrop : (replies.drop 1).drop (last + 1) = replies.drop (last + 2) := by
      rw [List.drop_drop, Nat.add_comm 1]
    exact hpaging.unread.trans hdrop
  · exact hpaging.sent.trans rfl

/-! ## What follows the version -/

/-- What both hostnames begin with, once the hostname of the application and its
services are known. -/
theorem suffix_eq {client : Client} {project host : Value}
    {dialogue between later : Dialogue} {members : List Value}
    (hhost : Admin.applicationHostname client project dialogue =
      (.ok host, between))
    (hlist : Admin.listServices client project between = (.ok members, later))
    (service : Value) :
    suffix client project service dialogue =
      ((standing service members).map fun alone =>
        (alone, if alone then [host] else [service, host]), later) := by
  have honly : onlyDefault client project service between =
      (standing service members, later) := by
    rw [onlyDefault_eq, hlist]
    rfl
  rw [suffix, bind_of_ok hhost]
  cases hstanding : standing service members with
  | error failure => rw [bind_of_error (hstanding ▸ honly)]; rfl
  | ok alone => rw [bind_of_ok (hstanding ▸ honly)]; rfl

/-- What is asked before anything of the version is known: for the application,
and for the pages of services. -/
structure Preliminary (client : Client) (project : String) (last : Nat)
    (asked : List Request) : Prop where
  count : asked.length = last + 2
  url : ∀ request ∈ asked,
    request.url = client.baseUrl ++ Resource.application.path project ∨
    request.url = client.baseUrl ++ Resource.services.path project

/-- What both hostnames begin with, by the services that there are. -/
theorem Tells.suffix (h : Tells client project replies hostname services last)
    (moduleName : String) :
    ∃ later, later.replies = replies.drop (last + 2) ∧
      Preliminary client project last (Effect.requests later.effects) ∧
      (services = {defaultService} → moduleName ≠ defaultService →
        Admin.suffix client (.text project) (.text moduleName) ⟨replies, []⟩ =
          (.error (moduleNotFound (.text moduleName)), later)) ∧
      (services = {defaultService} → moduleName = defaultService →
        Admin.suffix client (.text project) (.text moduleName) ⟨replies, []⟩ =
          (.ok (true, [hostname].map .text), later)) ∧
      (services ≠ {defaultService} →
        Admin.suffix client (.text project) (.text moduleName) ⟨replies, []⟩ =
          (.ok (false, [moduleName, hostname].map .text), later)) := by
  obtain ⟨members, later, pages, hlist, -, halone, hunread, hsent, hcount, hurl⟩ :=
    h.listServices
  have hsuffix := suffix_eq h.applicationHostname hlist (.text moduleName)
  refine ⟨later, hunread, ⟨?_, ?_⟩, ?_, ?_, ?_⟩
  · rw [hsent, List.length_cons, hcount]
  · intro request hmem
    rw [hsent, List.mem_cons] at hmem
    rcases hmem with rfl | hmem
    · exact .inl rfl
    · exact .inr (hurl request hmem)
  · intro hdefault hother
    rw [hsuffix, standing, if_pos (halone.2 hdefault),
      if_neg (by simpa [Value.equal] using hother)]
    rfl
  · intro hdefault hsame
    rw [hsuffix, standing, if_pos (halone.2 hdefault),
      if_pos (by simp [Value.equal, hsame])]
    rfl
  · intro hothers
    rw [hsuffix, standing, if_neg (mt halone.1 hothers)]
    rfl

/-! ## Counts -/

/-- How many instances there are by the record of a version with these fields:
none are counted unless the version is scaled by hand. -/
inductive Counts (fields : List (String × Value)) : Option Quantity → Prop where
  | automatic (h : (Value.find? "manualScaling" fields).getD .null = .null) :
      Counts fields none
  | uncounted {settings : List (String × Value)}
      (h : Value.find? "manualScaling" fields = some (.record settings))
    (hnone : (Value.find? "instances" settings).getD .null = .null) :
      Counts fields none
  | counted {settings : List (String × Value)} {count : Value} {q : Quantity}
    (h : Value.find? "manualScaling" fields = some (.record settings))
    (hcount : Value.find? "instances" settings = some count)
      (hquantity : count.quantity? = some q)
    (hdefined : q ≠ .undefined) : Counts fields (some q)

/-- The count is more than this number. -/
def Admits (count : Option Quantity) (number : Nat) : Prop :=
  ∃ q, count = some q ∧ (Quantity.ofInt number).less q = true

theorem scaling_record (fields : List (String × Value)) :
    scaling (.record fields) =
      (((Value.find? "manualScaling" fields).getD .null).orElse
        (.record [])).get "instances" := rfl

theorem scaling_settings {fields settings : List (String × Value)}
    (h : Value.find? "manualScaling" fields = some (.record settings)) :
    scaling (.record fields) =
      .ok ((Value.find? "instances" settings).getD .null) := by
  rw [scaling_record, h]
  cases settings <;> rfl

/-- What a record says of its instances: their count, or that there is none. -/
theorem Counts.scaling {fields : List (String × Value)}
    {count : Option Quantity} (h : Counts fields count) :
    (count = none ∧ Admin.scaling (.record fields) = .ok .null) ∨
      ∃ value q, count = some q ∧ Admin.scaling (.record fields) = .ok value ∧
        value.quantity? = some q ∧
        q ≠ .undefined := by
  cases h with
  | automatic hnull =>
      refine .inl ⟨rfl, ?_⟩
      rw [scaling_record, hnull]
      rfl
  | uncounted hsettings hnull =>
      refine .inl ⟨rfl, ?_⟩
      rw [scaling_settings hsettings, hnull]
  | counted hsettings hcount hquantity hdefined =>
      refine .inr ⟨_, _, rfl, ?_, hquantity, hdefined⟩
      rw [scaling_settings hsettings, hcount]
      rfl

/-- A count is compared with the number of the instance. -/
theorem checkInstance_of_count {record value : Value}
    (h : scaling record = .ok value) (hnotnull : value ≠ .null)
    {number : Value} :
    checkInstance number record =
      match value.atMost? number with
      | some true =>
        .error (.plain .invalidInstances
          "The specified instance does not exist for this module/version.")
      | some false => .ok ()
      | none => .error .wrongType := by
  rw [checkInstance, h]
  cases value with
  | null => exact absurd rfl hnotnull
  | _ => rfl

/-- An instance is found exactly if its number is less than the count. -/
theorem Counts.checkInstance {fields : List (String × Value)}
    {count : Option Quantity} (h : Counts fields count) (number : Nat) :
    (Admits count number → Admin.checkInstance (.int number) (.record fields) = .ok ()) ∧
      (¬ Admits count number → ∃ failure, failure.kind = .invalidInstances ∧
        Admin.checkInstance (.int number) (.record fields) = .error failure) := by
  rcases h.scaling with ⟨rfl, hscaling⟩ | ⟨value, q, rfl, hscaling, hquantity, hdefined⟩
  · have hchecked : Admin.checkInstance (.int number) (.record fields) =
      .error (.plain .invalidInstances
        "Instance-specific hostnames are only available for manually scaled services.") := by
      rw [Admin.checkInstance, hscaling]
      rfl
    refine ⟨?_, fun _ => ⟨_, ?_, hchecked⟩⟩
    · rintro ⟨q, hq, -⟩
      cases hq
    · rfl
  · have horder :
        value.atMost? (.int number) = some (!(Quantity.ofInt number).less q) := by
      rw [← Quantity.less_or_equal hdefined (Quantity.ofInt_defined _)]
      cases value <;> simp_all [Value.atMost?, Value.quantity?]
    have hnotnull : value ≠ .null := by
      rintro rfl
      cases hquantity
    have hchecked : Admin.checkInstance (.int number) (.record fields) =
        if (Quantity.ofInt number).less q then .ok ()
        else .error
          (.plain .invalidInstances
            "The specified instance does not exist for this module/version.") := by
      rw [checkInstance_of_count hscaling hnotnull, horder]
      cases (Quantity.ofInt number).less q <;> rfl
    rw [hchecked]
    constructor
    · rintro ⟨other, hother, hless⟩
      obtain rfl := Option.some.inj hother
      exact if_pos hless
    · intro hnot
      exact ⟨_, rfl, if_neg fun hless => hnot ⟨q, rfl, hless⟩⟩

/-! ## Hostnames -/

/-- The record of an application with a hostname. -/
def hostReply : Reply :=
  .response 200 none "\x7b\"defaultHostname\":\"shop.test\"\x7d"

theorem hostReply_read (url : String) :
    hostReply.read url =
      .ok (.record [("defaultHostname", .text "shop.test")]) := by
  have htokens :
      Json.tokens "\x7b\"defaultHostname\":\"shop.test\"\x7d".toList =
      [.openRecord, .string "defaultHostname", .colon, .string "shop.test",
        .closeRecord] :=
    Json.tokens_cons rfl (by nofun) <| Json.tokens_cons rfl (by nofun) <|
      Json.tokens_cons rfl (by nofun) <|
      Json.tokens_cons rfl (by nofun) <|
        Json.tokens_cons rfl (by nofun) Json.tokens_nil
  exact Reply.read_tokens rfl htokens rfl

/-- Services that fit one page are told by it. -/
theorem tells_page {host page : Reply} {names : List String}
    (hhost : host.read (client.baseUrl ++ Resource.application.path project) =
      .ok (.record [("defaultHostname", .text hostname)]))
    (hpage : page.read (Listing.services.url client project) =
      .ok (.record [("services",
        .list (names.map fun name => .record [("id", .text name)]))]))
    (rest : List Reply) :
    Tells client project (host :: page :: rest) hostname
      {name | name ∈ names} 0 := by
  have hlisted : listedUpTo (Listing.services.url client project) "services"
      ((host :: page :: rest).drop 1) 0 =
        names.map fun name => .record [("id", .text name)] := by
    show page.items _ "services" ++ [] = _
    rw [List.append_nil, Reply.items, hpage]
    rfl
  have hid : ∀ name, Value.item (.record [("id", .text name)]) "id" =
      .ok (.text name) := fun _ => rfl
  refine ⟨⟨_, hhost, .inl rfl⟩, ?_, fun k hk => absurd hk (Nat.not_lt_zero k),
    ?_, ?_, ?_⟩
  · intro k hk
    obtain rfl := Nat.le_zero.1 hk
    refine ⟨_, hpage, _, rfl,
      fun items hitems => .inr ⟨_, (Option.some.inj hitems).symm, ?_⟩⟩
    intro record hrecord
    obtain ⟨name, -, rfl⟩ := List.mem_map.1 hrecord
    exact ⟨_, rfl, fun id hid => ⟨name, (Option.some.inj hid).symm⟩⟩
  · show page.next? _ = _
    rw [Reply.next?, hpage]
    rfl
  · intro record hrecord
    obtain ⟨name, -, rfl⟩ := List.mem_map.1 (hlisted ▸ hrecord)
    exact ⟨name, hid name⟩
  · intro name
    rw [hlisted]
    simp [hid]

/-- The record of a version with three instances. -/
def countReply : Reply :=
  .response 200 none "\x7b\"manualScaling\":\x7b\"instances\":3\x7d\x7d"

theorem countReply_read (url : String) :
    countReply.read url =
      .ok (.record [("manualScaling", .record [("instances", .int 3)])]) := by
  have htokens :
      Json.tokens "\x7b\"manualScaling\":\x7b\"instances\":3\x7d\x7d".toList =
      [.openRecord, .string "manualScaling", .colon, .openRecord,
        .string "instances", .colon, .literal (.int 3),
        .closeRecord, .closeRecord] :=
    Json.tokens_cons rfl (by nofun) <| Json.tokens_cons rfl (by nofun) <|
      Json.tokens_cons rfl (by nofun) <|
      Json.tokens_cons rfl (by nofun) <| Json.tokens_cons rfl (by nofun) <|
        Json.tokens_cons rfl (by nofun) <|
      Json.tokens_cons rfl (by nofun) <| Json.tokens_cons rfl (by nofun) <|
        Json.tokens_cons rfl (by nofun)
      Json.tokens_nil
  exact Reply.read_tokens rfl htokens rfl

end Admin
end HostedModules
