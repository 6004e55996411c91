/-
HostedModules.Proofs.Admin.Unambiguous — a hostname leads to one version or to
one instance.

The labels in front of the hostname of an application can be read back from what
they are joined to: it is split at its dots, and what the application adds is
always the same.  So the answer tells what was asked for, by whichever function,
and a version with the name of a number is not taken for an instance.

* `Hostname.IsLabel` — a text that can stand between dots
* `Hostname.splitOn_dotted`, `Hostname.labels_injective` — labels in front of a
  hostname are read back
* `Admin.Shows` — the hostname and the services of an application, as the
  replies show them
* `Admin.Place` — what a hostname is asked for, and the labels that it comes to
* `Admin.Place.answer_eq` — what the answer to a call is made of
* `Admin.hostnames_unambiguous` — two answers are the same exactly if they are
  for one place
-/
import HostedModules.Proofs.Admin.Layout

namespace HostedModules

/-! ## Labels -/

namespace Hostname

/-- The text can stand between dots: it is not empty and has none. -/
def IsLabel (part : String) : Prop := part ≠ "" ∧ '.' ∉ part.toList

instance (part : String) : Decidable (IsLabel part) :=
  inferInstanceAs (Decidable (_ ∧ _))

/-- The number of an instance is a label. -/
theorem isLabel_toString (n : Nat) : IsLabel (toString n) := by
  have hdigits : (toString n).toList = Nat.toDigits 10 n := Nat.toList_repr
  constructor
  · intro hempty
    rw [hempty] at hdigits
    exact Nat.toDigits_ne_nil hdigits.symm
  · intro hdot
    rw [hdigits] at hdot
    exact absurd (Nat.isDigit_of_mem_toDigits (by decide) (by decide) hdot)
      (by decide)

/-- The label tells the number. -/
theorem toString_injective {m n : Nat}
    (h : toString m = toString n) : m = n := by
  have hdigits : Nat.toDigits 10 m = Nat.toDigits 10 n := by
    rw [← Nat.toList_repr, ← Nat.toList_repr]
    exact congrArg String.toList h
  rw [← Nat.ofDigitChars_ten_toDigits (n := m), hdigits,
    Nat.ofDigitChars_ten_toDigits]

/-- Something remains if one of the parts is not empty. -/
theorem dotted_ne_empty {part : String} (h : part ≠ "") :
    ∀ {parts : List String}, part ∈ parts → dotted parts ≠ ""
  | first :: rest, hmem => by
      by_cases hfirst : first = ""
      · have hrest : part ∈ rest := by simpa [hfirst, h] using hmem
        rw [hfirst, dotted_of_isEmpty rfl]
        exact dotted_ne_empty h hrest
      · rw [← dotted_dotted]
        generalize dotted rest = joined
        by_cases hjoined : joined = "" <;> simp [dotted, hfirst, hjoined]

/-- The first label stands before the first dot. -/
theorem splitOn_dotted_cons {label : String} (h : IsLabel label)
    {parts : List String} (hparts : dotted parts ≠ "") :
    List.splitOn '.' (dotted (label :: parts)).toList = label.toList ::
      List.splitOn '.' (dotted parts).toList := by
  have hjoined : (dotted (label :: parts)).toList = label.toList ++ '.' ::
      (dotted parts).toList := by
    rw [← dotted_dotted]
    generalize dotted parts = joined at hparts
    simp [dotted, h.1, hparts]
  have hlabel : ∀ c ∈ label.toList, (c == '.') = false := by
    intro c hc
    simp only [beq_eq_false_iff_ne, ne_eq]
    rintro rfl
    exact h.2 hc
  rw [hjoined]
  exact List.splitOnP_append_cons_of_forall_mem hlabel '.' rfl _

/-- What the hostname of an application adds to the labels in front of it. -/
def tail (host : String) : List (List Char) :=
  if host = "" then [] else List.splitOn '.' host.toList

/-- Labels in front of a hostname are read back. -/
theorem splitOn_dotted (host : String) :
    ∀ {labels : List String}, labels ≠ [] → (∀ label ∈ labels, IsLabel label) →
    List.splitOn '.' (dotted (labels ++ [host])).toList =
      labels.map String.toList ++ tail host
  | [], hne, _ => absurd rfl hne
  | [label], _, hlabels => by
      have hlabel : IsLabel label := hlabels label (by simp)
      by_cases hhost : host = ""
      · have hjoined : dotted ([label] ++ [host]) = label := by
          simp [dotted, hlabel.1, hhost]
        rw [hjoined, List.splitOn_eq_singleton hlabel.2]
        simp [tail, hhost]
      · have hjoined : dotted [host] ≠ "" := by rwa [dotted_singleton]
        rw [List.singleton_append, splitOn_dotted_cons hlabel hjoined,
          dotted_singleton]
        simp [tail, hhost]
  | label :: next :: rest, _, hlabels => by
      rw [List.forall_mem_cons] at hlabels
      have hnext : IsLabel next := hlabels.2 next (by simp)
      have hjoined : dotted (next :: rest ++ [host]) ≠ "" :=
        dotted_ne_empty hnext.1 (by simp)
      rw [List.cons_append, splitOn_dotted_cons hlabels.1 hjoined,
        splitOn_dotted host (by simp) hlabels.2]
      rfl

/-- No two rows of labels look the same in front of one hostname, not even if
that is empty. -/
theorem labels_injective {host : String} {labels others : List String}
    (hne : labels ≠ []) (hne' : others ≠ [])
    (h : ∀ label ∈ labels, IsLabel label) (h' : ∀ label ∈ others, IsLabel label)
    (hsame : dotted (labels ++ [host]) = dotted (others ++ [host])) :
    labels = others := by
  have hsplit : labels.map String.toList ++ tail host =
      others.map String.toList ++ tail host := by
    rw [← splitOn_dotted host hne h, ← splitOn_dotted host hne' h', hsame]
  exact List.map_injective_iff.2 (fun _ _ heq => String.toList_injective heq)
    (List.append_cancel_right hsplit)

end Hostname

/-! ## What is asked for -/

namespace Admin

open Exchange Client

/-- The replies show an application with this hostname, empty if it has none,
and then these services. -/
structure Shows (client : Client) (project : String) (replies : List Reply)
    (hostname : String) (services : Set String) : Prop where
  host : (applicationHostname client (.text project) ⟨replies, []⟩).1 =
    .ok (.text hostname)
  services : ∃ members,
    (listServices client (.text project) ⟨replies.drop 1, []⟩).1 = .ok members ∧
    ∀ v, v ∈ members ↔ ∃ name ∈ services, v = .text name

/-- What a hostname is asked for: a version of a service, or the instance of it
with this number. -/
structure Place where
  service : String
  version : String
  number : Option Nat
deriving DecidableEq

namespace Place

/-- The call that asks for the hostname. -/
def query (place : Place) : Query :=
  match place.number with
  | none => .versionHostname place.service place.version
  | some number => .instanceHostname place.service place.version number

/-- The labels in front of the hostname of the application; the service is left
out if it is the only one. -/
def labels (place : Place) (alone : Bool) : List String :=
  place.number.toList.map toString ++ place.version :: if alone then []
    else [place.service]

/-- The names of the service and of the version can stand between dots. -/
def Plain (place : Place) : Prop :=
  Hostname.IsLabel place.service ∧ Hostname.IsLabel place.version

instance (place : Place) : Decidable place.Plain :=
  inferInstanceAs (Decidable (_ ∧ _))

theorem Plain.labels {place : Place} (h : place.Plain) (alone : Bool) :
    ∀ label ∈ place.labels alone, Hostname.IsLabel label := by
  intro label hmem
  rcases List.mem_append.1 hmem with hnumber | hname
  · obtain ⟨number, -, rfl⟩ := List.mem_map.1 hnumber
    exact Hostname.isLabel_toString number
  · rcases List.mem_cons.1 hname with rfl | hservice
    · exact h.2
    · cases alone with
      | true => exact nomatch hservice
      | false =>
          obtain rfl := List.mem_singleton.1 hservice
          exact h.1

theorem labels_ne_nil (place : Place) (alone : Bool) :
    place.labels alone ≠ [] := by
  simp [labels]

/-- The labels tell what was asked for, given that a service which is left out
is the only one. -/
theorem eq_of_labels {place other : Place} {alone : Bool} {only : String}
    (h : alone = true → place.service = only)
    (h' : alone = true → other.service = only)
    (hlabels : place.labels alone = other.labels alone) :
    place = other := by
  obtain ⟨service, version, number⟩ := place
  obtain ⟨service', version', number'⟩ := other
  -- with a number there is one label more than without, whether the service is
  -- left out or not
  cases alone <;> cases number <;> cases number' <;>
    simp only [labels, Option.toList_none, Option.toList_some, List.map_nil,
      List.map_cons, List.nil_append, List.cons_append, if_true,
      Bool.false_eq_true, if_false, List.cons.injEq, and_true, reduceCtorEq,
      and_false]
      at hlabels
  · obtain ⟨rfl, rfl⟩ := hlabels
    rfl
  · obtain ⟨hnumber, rfl, rfl⟩ := hlabels
    rw [Hostname.toString_injective hnumber]
  · obtain rfl : service = service' := (h rfl).trans (h' rfl).symm
    rw [hlabels]
  · obtain rfl : service = service' := (h rfl).trans (h' rfl).symm
    obtain ⟨hnumber, rfl⟩ := hlabels
    rw [Hostname.toString_injective hnumber]

end Place

/-! ## What is answered -/

section

variable {client : Client} {project : String} {replies : List Reply}
    {hostname : String} {services : Set String}

/-- What an application tells, it shows. -/
theorem Tells.shows {last : Nat}
    (h : Tells client project replies hostname services last) :
    Shows client project replies hostname services := by
  obtain ⟨members, later, -, hlist, hmembers, -⟩ := h.listServices
  refine ⟨congrArg Prod.fst h.applicationHostname, members, ?_, hmembers⟩
  rw [← listServices_fresh client project _
    (client.lookedUp project .application none ⟨replies, []⟩).effects]
  exact congrArg Prod.fst hlist

/-- The part behind the version: the default service is left out if it is the
only one, and then there is no other. -/
theorem Shows.suffix (h : Shows client project replies hostname services)
    (service : String) :
    ∃ alone later, (alone = true ↔ services = {defaultService}) ∧
      Admin.suffix client (.text project) (.text service) ⟨replies, []⟩ =
        (if alone = true ∧ service ≠ defaultService then
          .error (moduleNotFound (.text service))
          else .ok (alone,
            ((if alone then [] else [service]) ++ [hostname]).map .text),
            later) := by
  obtain ⟨members, hlist, hmembers⟩ := h.services
  have hlater :=
    congrArg Prod.snd (applicationHostname_eq client project ⟨replies, []⟩)
  rw [← listServices_fresh client project _
    (client.lookedUp project .application none ⟨replies, []⟩).effects] at hlist
  refine ⟨isDefaultAlone members, _,
    isDefaultAlone_members (Distinct.listServices hlist) hmembers,
    (suffix_eq (Prod.ext h.host hlater) (Prod.ext hlist rfl)
      (.text service)).trans (congrArg (·, _) ?_)⟩
  unfold standing
  cases isDefaultAlone members with
  | true =>
      by_cases hservice : service = defaultService <;>
        simp [Value.equal, hservice, Except.map]
  | false => simp [Except.map]

/-- The number of an instance with a hostname is short enough to be written. -/
theorem lt_of_instanceHostname {service version name : String} {number : Nat}
    {dialogue : Dialogue}
    (h : (instanceHostname client (.text project) (.text service)
      (.text version) (.int number) dialogue).1 = .ok name) :
    number < Numeral.firstOversized := by
  refine Nat.lt_of_not_le fun hlong => ?_
  have hspelled : (Value.int number).spelled = .error (.unworded .wrongValue) :=
    if_neg (by simpa [Value.writable] using hlong)
  rw [instanceHostname_eq, hspelled] at h
  rcases hsuffix : Admin.suffix client (.text project) (.text service)
      dialogue with ⟨failure | found, later⟩
  · rw [bind_of_error hsuffix] at h
    cases h
  · rw [bind_of_ok hsuffix] at h
    rcases hconfirm : (if found.1 then pure () else
        confirm client (.text project) (.text service) (.text version)
          (.int number) : Exchange Unit) later with
      ⟨failure | confirmed, last⟩
    · rw [bind_of_error hconfirm] at h
      cases h
    · rw [bind_of_ok hconfirm] at h
      cases h

/-- If an instance has a hostname, it is the number in front of that of the
version. -/
theorem instanceHostname_eq_ok {service version name : String} {number : Nat}
    {alone : Bool} {labels : List String} {dialogue later : Dialogue}
    (hsuffix : Admin.suffix client (.text project) (.text service) dialogue =
      (.ok (alone, labels.map .text), later))
    (h : (instanceHostname client (.text project) (.text service)
      (.text version) (.int number) dialogue).1 = .ok name) :
    name = Hostname.dotted (toString number :: version :: labels) := by
  have hnumber := lt_of_instanceHostname h
  cases alone with
  | true =>
      rw [instanceHostname_of_alone hnumber hsuffix version] at h
      exact (Except.ok.inj h).symm
  | false =>
      rw [instanceHostname_of_others hnumber hsuffix version] at h
      cases hchecked :
        (client.told project (.version service version) later.replies).bind
          (checkInstance (.int number)) with
      | error failure =>
          rw [hchecked] at h
          cases h
      | ok found =>
          rw [hchecked] at h
          exact (Except.ok.inj h).symm

/-- The answer to a call consists of the labels of what was asked for and the
hostname of the application. -/
theorem Place.answer_eq (h : Shows client project replies hostname services)
    {place : Place} {answer : Answer}
    (hanswer : place.query.outcome client project replies = .ok answer) :
    ∃ alone, (alone = true ↔ services = {defaultService}) ∧
      (alone = true → place.service = defaultService) ∧
      answer = .value
        (.text (Hostname.dotted (place.labels alone ++ [hostname]))) := by
  obtain ⟨service, version, number⟩ := place
  obtain ⟨alone, later, halone, hsuffix⟩ := h.suffix service
  by_cases hmissing : alone = true ∧ service ≠ defaultService
  · -- a service that does not exist has no hostnames
    rw [if_pos hmissing] at hsuffix
    obtain ⟨-, -, hversion, -⟩ := Query.results_of_failed hsuffix version 0
    cases number with
    | none => exact nomatch hanswer.symm.trans hversion
    | some number =>
        obtain ⟨-, -, -, hinstance⟩ :=
          Query.results_of_failed hsuffix version number
        exact nomatch hanswer.symm.trans hinstance
  · rw [if_neg hmissing] at hsuffix
    refine ⟨alone, halone, fun honly => by_contra fun hother =>
      hmissing ⟨honly, hother⟩, ?_⟩
    cases number with
    | none =>
        obtain ⟨-, houtcome⟩ :=
          Query.versionHostname_result
            (versionHostname_of_suffix hsuffix version)
        exact Except.ok.inj (hanswer.symm.trans houtcome)
    | some number =>
        rcases hwork :
          instanceHostname client (.text project) (.text service)
          (.text version) (.int number)
            ⟨replies, []⟩ with ⟨failure | name, last⟩
        · obtain ⟨-, houtcome⟩ := Query.instanceHostname_result hwork
          exact nomatch hanswer.symm.trans houtcome
        · obtain ⟨-, houtcome⟩ := Query.instanceHostname_result hwork
          obtain rfl := instanceHostname_eq_ok hsuffix (congrArg Prod.fst hwork)
          exact Except.ok.inj (hanswer.symm.trans houtcome)

/-- **Hostnames are unambiguous.**  Take any application, whatever its hostname
and its services are, and two calls for the hostname of a version or an
instance, each with replies that show this application.  The names of services
and versions are neither empty nor have dots, and instances have any number.  If
both calls have an answer, then it is the same answer exactly if they asked for
the same: the same version of the same service, and either both for the version
or both for the instance with the same number. -/
theorem hostnames_unambiguous {client' : Client} {replies' : List Reply}
    (h : Shows client project replies hostname services)
    (h' : Shows client' project replies' hostname services)
    {place place' : Place} (hplain : place.Plain) (hplain' : place'.Plain)
    {answer answer' : Answer}
    (hanswer : place.query.outcome client project replies = .ok answer)
    (hanswer' : place'.query.outcome client' project replies' = .ok answer') :
    answer = answer' ↔ place = place' := by
  obtain ⟨alone, halone, honly, rfl⟩ := Place.answer_eq h hanswer
  obtain ⟨alone', halone', honly', rfl⟩ := Place.answer_eq h' hanswer'
  -- the services are the same, and so is whether one is left out
  obtain rfl : alone = alone' := Bool.eq_iff_iff.2 (halone.trans halone'.symm)
  constructor
  · intro hsame
    simp only [Answer.value.injEq, Value.text.injEq] at hsame
    exact Place.eq_of_labels honly honly'
      (Hostname.labels_injective (place.labels_ne_nil alone)
        (place'.labels_ne_nil alone) (hplain.labels alone)
          (hplain'.labels alone) hsame)
  · rintro rfl
    rfl

end

/-- A page that lists two services. -/
def pairPage : Reply :=
  .response 200 none
    "\x7b\"services\":[\x7b\"id\":\"v1\"\x7d,\x7b\"id\":\"web\"\x7d]\x7d"

theorem pairPage_read (url : String) : pairPage.read url =
    .ok (.record [("services",
      .list (["v1", "web"].map fun name => .record [("id", .text name)]))]) := by
  have htokens : Json.tokens
      "\x7b\"services\":[\x7b\"id\":\"v1\"\x7d,\x7b\"id\":\"web\"\x7d]\x7d".toList =
      [.openRecord, .string "services", .colon, .openList, .openRecord,
        .string "id", .colon, .string "v1", .closeRecord, .comma, .openRecord,
        .string "id", .colon, .string "web", .closeRecord, .closeList,
        .closeRecord] := by
    repeat refine Json.tokens_cons rfl (by nofun) ?_
    exact Json.tokens_nil
  exact Reply.read_tokens rfl htokens rfl

/-- The version `2` of the service `v1`, and the instance with number two of the
version `v1` of the service `web`, in an application with both services and a
hostname with a dot. -/
theorem hostnames_unambiguous_of_numeral :
    Shows ⟨"", none⟩ "shop" [hostReply, pairPage] "shop.test"
        {name | name ∈ ["v1", "web"]} ∧
      Shows ⟨"", none⟩ "shop" [hostReply, pairPage, countReply] "shop.test"
        {name | name ∈ ["v1", "web"]} ∧
      Place.Plain ⟨"v1", "2", none⟩ ∧ Place.Plain ⟨"web", "v1", some 2⟩ ∧
      (Place.query ⟨"v1", "2", none⟩).outcome ⟨"", none⟩ "shop"
        [hostReply, pairPage] = .ok (.value (.text "2.v1.shop.test")) ∧
      (Place.query ⟨"web", "v1", some 2⟩).outcome ⟨"", none⟩ "shop"
        [hostReply, pairPage, countReply] =
          .ok (.value (.text "2.v1.web.shop.test")) ∧
      Answer.value (.text "2.v1.shop.test") ≠
        .value (.text "2.v1.web.shop.test") := by
  have htells : Tells ⟨"", none⟩ "shop" [hostReply, pairPage] "shop.test"
      {name | name ∈ ["v1", "web"]} 0 :=
    tells_page (hostReply_read _) (pairPage_read _) []
  have htells' : Tells ⟨"", none⟩ "shop" [hostReply, pairPage, countReply]
      "shop.test" {name | name ∈ ["v1", "web"]} 0 :=
    tells_page (hostReply_read _) (pairPage_read _) [countReply]
  have hplain : Place.Plain ⟨"v1", "2", none⟩ := by decide
  have hplain' : Place.Plain ⟨"web", "v1", some 2⟩ := by decide
  have hothers :
      {name | name ∈ ["v1", "web"]} ≠ ({defaultService} : Set String) :=
    fun hsame => absurd (hsame.subset List.mem_cons_self : "v1" = "default")
      (by decide)
  have hversion : (Place.query ⟨"v1", "2", none⟩).outcome ⟨"", none⟩ "shop"
      [hostReply, pairPage] = .ok (.value (.text "2.v1.shop.test")) := by
    obtain ⟨later, -, -, -, -, hsuffix⟩ := htells.suffix "v1"
    obtain ⟨-, -, houtcome, -⟩ := Query.results_of_others
      (show 0 < Numeral.firstOversized by decide +kernel) (hsuffix hothers) "2"
    exact houtcome
  have hinstance : (Place.query ⟨"web", "v1", some 2⟩).outcome ⟨"", none⟩ "shop"
      [hostReply, pairPage, countReply] =
        .ok (.value (.text "2.v1.web.shop.test")) := by
    obtain ⟨later, hunread, -, -, -, hsuffix⟩ := htells'.suffix "web"
    have htold : told ⟨"", none⟩ "shop" (.version "web" "v1") later.replies =
        .ok (.record [("manualScaling", .record [("instances", .int 3)])]) := by
      rw [hunread, told]
      show (countReply.read _).mapError _ = _
      rw [countReply_read]
      rfl
    have hcounts : Counts [("manualScaling", .record [("instances", .int 3)])]
        (some (Quantity.ofInt 3)) :=
      .counted rfl rfl rfl (Quantity.ofInt_defined 3)
    have hfound := (hcounts.checkInstance 2).1
      ⟨_, rfl, by simp [Quantity.less_ofInt]⟩
    obtain ⟨-, -, -, houtcome⟩ := Query.results_of_others
      (show 2 < Numeral.firstOversized by decide +kernel) (hsuffix hothers) "v1"
    rw [htold, Except.bind, hfound] at houtcome
    exact houtcome
  refine ⟨htells.shows, htells'.shows, hplain, hplain', hversion, hinstance, ?_⟩
  exact mt (hostnames_unambiguous htells.shows htells'.shows hplain hplain'
    hversion hinstance).1 (by decide)

end Admin
end HostedModules
