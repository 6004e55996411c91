/-
HostedModules.Proofs.Channel.Arguments — what is given for a call arrives in its
request.

Requests for calls with documented arguments hold texts and integers.  A large
integer is rounded on the way, so that reading the request does not give it
back, but it arrives all the same.

* `Value.Simple`, `Value.Arrives` — texts and integers, and what arrives for
  them
* `Channel.fields_arrive` — reading a request gives the fields that were sent
* `Call.arguments` — the arguments of a call, by name
* `Call.arguments_arrive` — reading the request of a call gives the arguments
  that were given
-/
import HostedModules.Proofs.Channel.RoundTrip
import HostedModules.Proofs.Operation.Documented

namespace HostedModules

open Value

namespace Value

/-- The value is a text or an integer. -/
def Simple : Value → Prop
  | .text _ | .int _ => True
  | _ => False

/-- If the one value is a text, so is the other, and it is the same. -/
def Told (v w : Value) : Prop := ∀ s, v = .text s → w = .text s

/-- A text arrives as it is, and an integer as the double nearest to it. -/
inductive Arrives : Value → Value → Prop where
  | text (s : String) : Arrives (.text s) (.text s)
  | int {n : Int} {x : Double} (h : Double.ofInt? n = some x) :
      Arrives (.int n) (.double x)

theorem Arrives.told {v w : Value} (h : Arrives v w) : Told v w := by
  rintro s rfl
  cases h
  rfl

/-- What is under a key of a record has a counterpart under the same key of
every record that agrees. -/
theorem AgreesFields.mem {scalar : Value → Value → Prop} {key : String}
    {v : Value} :
    ∀ {fields others : List (String × Value)},
      AgreesFields scalar fields others → (key, v) ∈ fields →
      ∃ w, (key, w) ∈ others ∧ Agrees scalar v w
  | [], _, _, hmem => nomatch hmem
  | (k, u) :: rest, others, h, hmem => by
      rw [AgreesFields] at h
      obtain ⟨before, w, after, rfl, hw, hrest⟩ := h
      rcases List.mem_cons.1 hmem with heq | hmem
      · obtain ⟨rfl, rfl⟩ := Prod.mk.inj heq
        exact ⟨w, by simp, hw⟩
      · obtain ⟨w', hmem', hw'⟩ := hrest.mem hmem
        refine ⟨w', ?_, hw'⟩
        rcases List.mem_append.1 hmem' with hmem' | hmem' <;> simp [hmem']

end Value

namespace Wire.Datum

/-- A text or an integer that can be sent is no record, and something arrives
for it. -/
theorem ofValue?_simple {v : Value} {d : Datum} (h : v.Simple)
    (hd : ofValue? v = .ok d) :
    d.Keyed ∧ d.levels = 1 ∧ ∃ w, toValue? d.sorted = .ok w ∧
      Agrees Arrives v w := by
  cases v with
  | text s =>
      obtain rfl := Except.ok.inj hd
      exact ⟨trivial, rfl, .text s, rfl, .text s⟩
  | int n =>
      rw [ofValue?] at hd
      cases hx : Double.ofInt? n with
      | none => rw [hx] at hd; exact nomatch hd
      | some x =>
          rw [hx] at hd
          obtain rfl := Except.ok.inj hd
          exact ⟨trivial, rfl, .double x, if_pos (Double.finite_of_ofInt? hx), .int hx⟩
  | _ => exact h.elim

/-- The same of fields: each of them arrives under its key. -/
theorem ofFields?_simple :
    ∀ {fields : List (String × Value)} {data : List (String × Datum)},
      (∀ field ∈ fields, field.2.Simple) →
      ofFields? fields = .ok data → KeyedFields data ∧ levelsOfFields data ≤ 2 ∧
        ∃ values, toFields? (sortEntries (sortedFields data)) = .ok values ∧
          AgreesFields Arrives fields values
  | [], data, _, h => by
      obtain rfl : [] = data := Except.ok.inj h
      exact ⟨trivial, Nat.zero_le 2, [], rfl, rfl⟩
  | (key, v) :: rest, data, hsimple, h => by
      rw [ofFields?] at h
      obtain ⟨d, ds, hv, hrest, rfl⟩ := Failure.both_eq_ok.1 h
      obtain ⟨hkeyed, hlevels, w, hd, hw⟩ :=
        ofValue?_simple (hsimple _ List.mem_cons_self) hv
      obtain ⟨hkeyed', hlevels', ws, hdecoded, hagrees⟩ :=
        ofFields?_simple
          (fun field hmem => hsimple field (List.mem_cons_of_mem _ hmem)) hrest
      obtain ⟨before, after, hsplit, hinsert⟩ := insertEntry_split key w ws
      refine ⟨⟨hkeyed, hkeyed'⟩, ?_, insertEntry key w ws,
        toFields?_insertEntry hd hdecoded, before, w, after, hinsert, hw, ?_⟩
      · rw [levelsOfFields, hlevels]
        exact Nat.max_le.2 ⟨Nat.le_refl 2, hlevels'⟩
      · rw [← hsplit]
        exact hagrees

end Wire.Datum

namespace Channel

/-- Reading a request of texts and integers gives the fields that were sent. -/
theorem fields_arrive {fields : List (String × Value)} {bytes : List UInt8}
    (hkeys : (fields.map Prod.fst).Nodup)
    (hsimple : ∀ field ∈ sent fields, field.2.Simple)
    (hencoded : encodeRequest fields = .ok bytes)
    (hlen : bytes.length < Wire.lengthLimit) :
    ∃ received, decodeResponse bytes = .ok received ∧
      AgreesFields Arrives (sent fields) received := by
  obtain ⟨data, hdata, rfl⟩ := Failure.map_eq_ok.1 hencoded
  obtain ⟨hkeyed, hlevels, received, hdecoded, hagrees⟩ :=
    Wire.Datum.ofFields?_simple hsimple hdata
  have hrecord : (Wire.Datum.record data).Keyed := by
    rw [Wire.Datum.Keyed, Wire.Datum.ofFields?_keys hdata]
    exact ⟨sent_keys_nodup hkeys, hkeyed⟩
  have hdepth : Wire.Datum.levelsOfFields data ≤ Wire.messageDepth :=
    Nat.le_trans hlevels (by decide)
  refine ⟨received, ?_, hagrees⟩
  rw [decodeResponse, Wire.decodeRecord_encodeRecord hrecord hdepth hlen]
  exact hdecoded

end Channel

/-! ## Calls -/

namespace Call

/-- The arguments of a call by name; one that is `null` was not given. -/
def arguments : Call → List (String × Value)
  | .modules => []
  | .versions moduleName | .defaultVersion moduleName =>
      [("module", moduleName)]
  | .countInstances target | .start target | .stop target | .versionHostname target =>
    [("module", target.moduleName), ("version", target.version)]
  | .setInstances count target =>
    [("module", target.moduleName), ("version", target.version),
      ("instances", count)]
  | .instanceHostname number target | .hostname number target =>
    [("module", target.moduleName), ("version", target.version),
      ("instance", number)]

/-- What is sent for a call is what was given. -/
theorem sent_of_check {call : Call} {operation : Operation}
    (h : call.check = .ok operation) :
    (Channel.sent operation.command.fields).map Prod.fst =
      (Channel.sent call.arguments).map Prod.fst := by
  have hversion : ∀ target : Target,
    (Channel.sent (Operation.versionHostname target).command.fields).map
    Prod.fst =
      (Channel.sent [("module", target.moduleName),
        ("version", target.version)]).map Prod.fst := by
    intro target
    have hnull : Channel.given .null = false := rfl
    simp only [Operation.command, Channel.Command.fields, Channel.sent,
      List.filter_cons, hnull]
    rfl
  -- the number of an instance is sent as a text, and it was given, for nothing
  -- else passes the check
  have hinstance : ∀ {number : Value} {n : Nat} (target : Target),
    Instance.parse number = .ok n →
      (Channel.sent (Operation.instanceHostname n target).command.fields).map
        Prod.fst =
        (Channel.sent (Call.instanceHostname number target).arguments).map
          Prod.fst := by
    intro number n target hparse
    have hgiven : Channel.given number = true :=
      Channel.given_iff.2 (by rintro rfl; cases hparse)
    have htext : Channel.given (.text (toString n)) = true := rfl
    simp only [Operation.command, Channel.Command.fields, arguments,
      Channel.sent, List.filter_cons, hgiven, htext]
    cases Channel.given target.moduleName <;>
      cases Channel.given target.version <;> rfl
  cases passes_of_check h with
  | versionHostname target => exact hversion target
  | hostname target => exact hversion target
  | instanceHostname target hparse => exact hinstance target hparse
  | hostnameOf target hparse => exact hinstance target hparse
  | _ => rfl

/-- A name that was given is a text. -/
theorem simple_of_name {v : Value} (h : Name v)
    (hgiven : v ≠ .null) : v.Simple := by
  cases v with
  | null => exact absurd rfl hgiven
  | text s => trivial
  | _ => exact h.elim

/-- The request of a call with documented arguments holds texts and integers. -/
theorem Documented.simple {call : Call} (h : call.Documented)
    {operation : Operation} (hcheck : call.check = .ok operation) :
    ∀ field ∈ Channel.sent operation.command.fields, field.2.Simple := by
  intro field hmem
  obtain ⟨hfield, hgiven⟩ := Channel.mem_sent.1 hmem
  have htarget := (yields_of_check hcheck).target
  rcases operation.field_cases hfield with hmodule | hversion | hname | ⟨n,
    target, -, hn⟩
  · exact simple_of_name (by rw [hmodule, htarget]; exact h.moduleName) hgiven
  · exact simple_of_name (by rw [hversion, htarget]; exact h.version) hgiven
  · exact simple_of_name hname hgiven
  · rw [hn]
    trivial

/-- The module and the version that an operation is about stand in its
request. -/
theorem target_mem_fields (operation : Operation) (s : String) :
    (operation.target.moduleName = .text s →
      ("module", .text s) ∈ operation.command.fields) ∧
      (operation.target.version = .text s →
        ("version", .text s) ∈ operation.command.fields) := by
  cases operation <;>
    simp only [Operation.target, Operation.command, Channel.Command.fields,
      List.mem_cons, Prod.mk.injEq, true_and, reduceCtorEq, false_implies,
      and_true, and_self] <;>
    grind

/-- **The arguments that were given, and no others, arrive in the request of a
call**, the names as they are. -/
theorem arguments_arrive {call : Call} {operation : Operation}
    {bytes : List UInt8} (hdocumented : call.Documented)
    (hcheck : call.check = .ok operation)
    (hrequest : operation.request = .ok bytes)
    (hlen : bytes.length < Wire.lengthLimit) :
    ∃ received, Channel.decodeResponse bytes = .ok received ∧
      (received.map Prod.fst).Nodup ∧
      (∀ key, key ∈ received.map Prod.fst ↔ ∃ v, (key, v) ∈ call.arguments ∧
        v ≠ .null) ∧
      ∀ s, (call.target.moduleName = .text s → ("module", .text s) ∈ received) ∧
        (call.target.version = .text s → ("version", .text s) ∈ received) := by
  have hkeys : (operation.command.fields.map Prod.fst).Nodup := by
    cases operation <;> simp [Operation.command, Channel.Command.fields]
  obtain ⟨received, hreceived, hagrees⟩ :=
    Channel.fields_arrive hkeys (hdocumented.simple hcheck)
    (Operation.request_eq_ok.1 hrequest).2 hlen
  have hperm := hagrees.keys
  have hnames : ∀ {key s}, (key, .text s) ∈ operation.command.fields →
      (key, .text s) ∈ received := by
    intro key s hmem
    obtain ⟨w, hw, harrives⟩ := hagrees.mem (Channel.mem_sent.2 ⟨hmem, by simp⟩)
    obtain rfl : w = .text s := Arrives.told harrives s rfl
    exact hw
  refine ⟨received, hreceived,
    hperm.nodup_iff.2 (Channel.sent_keys_nodup hkeys), fun key => ?_, fun s => ?_⟩
  · rw [hperm.mem_iff, sent_of_check hcheck, List.mem_map]
    constructor
    · rintro ⟨⟨_, v⟩, hmem, rfl⟩
      exact ⟨v, Channel.mem_sent.1 hmem⟩
    · rintro ⟨v, hmem⟩
      exact ⟨(key, v), Channel.mem_sent.2 hmem, rfl⟩
  · rw [← (yields_of_check hcheck).target]
    obtain ⟨hmodule, hversion⟩ := target_mem_fields operation s
    exact ⟨fun h => hnames (hmodule h), fun h => hnames (hversion h)⟩

end Call
end HostedModules
