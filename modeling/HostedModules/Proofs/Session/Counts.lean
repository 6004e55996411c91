/-
HostedModules.Proofs.Session.Counts — the instance count that a call sends.

The administrative service is sent a count as it was given.  On the legacy
channel all numbers are doubles, so that a count arrives as the double nearest
to it, which may be another number.

* `administered_count` — the requests for a change of the count
* `Channel.count_arrives` — what is read of the count in the request to the
  channel
* `Session.count_sent` — the count that a call sends, on either backend
* `Session.count_altered` — a count that the channel is sent another number for
-/
import Mathlib.Algebra.Group.Int.Defs
import HostedModules.Proofs.Channel.Arguments
import HostedModules.Proofs.Session.Updates

namespace HostedModules

open Exchange Effect

/-- In a record that has each key once, every field is found under its key. -/
theorem Value.find?_of_mem {key : String} {v : Value}
    {fields : List (String × Value)} (hkeys : (fields.map Prod.fst).Nodup)
    (hmem : (key, v) ∈ fields) : find? key fields = some v := by
  induction fields with
  | nil => cases hmem
  | cons field rest ih =>
      obtain ⟨k, w⟩ := field
      rw [List.map_cons, List.nodup_cons] at hkeys
      rcases List.mem_cons.1 hmem with heq | hmem
      · obtain ⟨rfl, rfl⟩ := Prod.mk.inj heq
        simp [find?]
      · have hne : k ≠ key := by
          rintro rfl
          exact hkeys.1 (List.mem_map.2 ⟨(k, v), hmem, rfl⟩)
        simp [find?, hne, ih hkeys.2 hmem]

/-! ## The administrative service -/

namespace Dispatch

variable (service : Service) (circumstances : Circumstances) (store : Store)

/-- A count that cannot be written is not sent. -/
theorem setInstances_unwritable {n : Int} (h : (Value.int n).writable = false)
    (client : Client) (project : Value) (target : Target)
    (dialogue : Dialogue) :
    (Operation.setInstances n target).administer client project dialogue =
      (.error (.unworded .wrongValue), dialogue) := by
  have hspelled :
      lift (Value.int n).spelled dialogue = (.error (.unworded .wrongValue),
      dialogue) := by
    rw [lift, Value.spelled, h]
    rfl
  have hfailed :
      Admin.setInstances client project target.moduleName target.version
      (.int n) dialogue =
      (.error (.unworded .wrongValue), dialogue) := bind_of_error hspelled
  rw [Operation.administer, map_eq_pure_bind, bind_of_error hfailed]

theorem work_unwritable {n : Int} (h : (Value.int n).writable = false)
    (client : Client) (target : Target) (dialogue : Dialogue) :
    requests (work service (.ok client)
      (.setInstances n target) dialogue).2.effects =
      requests dialogue.effects := by
  have hlabelled :
      emit [.labelled (Operation.setInstances n target).label] dialogue =
      (.ok (), dialogue.add
        [.labelled (Operation.setInstances n target).label]) := rfl
  have hclient : ∀ later, lift (.ok client) later = (.ok client, later) :=
    fun _ => rfl
  rw [work, bind_of_ok hlabelled, bind_of_ok (hclient _),
    setInstances_unwritable h]
  show requests (dialogue.effects ++ _) = _
  rw [requests_append]
  exact List.append_nil _

/-- Every request for a change of the count carries the count as it was
given. -/
theorem administered_count (n : Int) (moduleName version : String) :
    ∀ request ∈ requests (administered service circumstances
        (.setInstances n ⟨.text moduleName, .text version⟩) store).effects,
      ∃ client, circumstances.client = .ok client ∧
        request.Changes client service.project moduleName version
          ["manualScaling", "instances"] (.int n) := by
  have htarget :
      (Operation.setInstances n ⟨.text moduleName,
        .text version⟩).target.resolve circumstances.bindings =
      .ok ⟨.text moduleName, .text version⟩ := rfl
  intro request hmem
  cases hclient : circumstances.client with
  | error failure =>
      rw [administered_nothing service circumstances store (.inr hclient)] at hmem
      cases hmem
  | ok client =>
      refine ⟨client, rfl, ?_⟩
      cases hwritable : (Value.int n).writable with
      | true =>
          obtain ⟨sent, hsent, hall⟩ :=
            administered_changes service circumstances store rfl htarget
              hwritable hclient
          rw [hall] at hmem
          obtain rfl := List.mem_singleton.1 hmem
          exact hsent
      | false =>
          -- writing the count fails before anything is sent
          have hnothing : requests (administered service circumstances
              (.setInstances n ⟨.text moduleName, .text version⟩)
                store).effects = [] := by
            rw [administered_eq service circumstances store rfl, hclient,
              work_unwritable service hwritable]
            rfl
          rw [hnothing] at hmem
          cases hmem

end Dispatch

/-! ## The legacy channel -/

namespace Channel

/-- The count is read of the request as the double nearest to it. -/
theorem count_arrives {n : Int} {moduleName version : String}
    {bytes : List UInt8}
    (h : (Operation.setInstances n ⟨.text moduleName, .text version⟩).request =
      .ok bytes)
    (hlen : bytes.length < Wire.lengthLimit) :
    ∃ received x, decodeResponse bytes = .ok received ∧
      Value.find? "instances" received = some (.double x) ∧
      Double.ofInt? n = some x := by
  have hkeys :
      ((Operation.setInstances n ⟨.text moduleName,
        .text version⟩).command.fields.map Prod.fst).Nodup := by
    simp [Operation.command, Command.fields]
  have hsimple :
      ∀ field ∈ sent
      (Operation.setInstances n ⟨.text moduleName,
        .text version⟩).command.fields,
      field.2.Simple := by
    intro field hmem
    simp only [Operation.command, Command.fields, sent, List.mem_filter,
      List.mem_cons, List.not_mem_nil, or_false]
      at hmem
    rcases hmem with ⟨rfl | rfl | rfl, -⟩ <;> trivial
  obtain ⟨received, hreceived, hagrees⟩ :=
    fields_arrive hkeys hsimple (Operation.request_eq_ok.1 h).2 hlen
  have hsent : ("instances", .int n) ∈
      sent (Operation.setInstances n ⟨.text moduleName,
        .text version⟩).command.fields :=
    mem_sent.2 ⟨by simp [Operation.command, Command.fields], by simp⟩
  obtain ⟨w, hw, harrives⟩ := hagrees.mem hsent
  have hnodup : (received.map Prod.fst).Nodup :=
    hagrees.keys.nodup_iff.2 (sent_keys_nodup hkeys)
  cases harrives with
  | int hx => exact ⟨received, _, hreceived, Value.find?_of_mem hnodup hw, hx⟩

end Channel

/-! ## Calls -/

namespace Session

/-- **The count that a call sends.**  Every request to the administrative
service changes the count of the version to the number that was given.  Every
request to the channel is read as holding the double nearest to that number,
which equals it exactly if the number has at most 53 significant bits. -/
theorem count_sent (service : Service) (session : Session) {step : Step}
    {backends : Backends} {n : Int} {moduleName version : String}
    (hstep : step.call? = some
      (.setInstances (.int n) ⟨.text moduleName, .text version⟩, backends)) :
    (∀ request ∈ requests (take service session step).effects, ∃ client,
      backends.client = .ok client ∧
      request.Changes client service.project moduleName version
        ["manualScaling", "instances"] (.int n)) ∧
    ∀ method bytes,
      (method, bytes) ∈ commands (take service session step).effects →
      bytes.length < Wire.lengthLimit →
      ∃ received x, Channel.decodeResponse bytes = .ok received ∧
        Value.find? "instances" received = some (.double x) ∧
          Double.ofInt? n = some x ∧
        ((Value.double x).equal (.int n) = true ↔ Double.Fits n) := by
  have hcheck :
      (Call.setInstances (.int n) ⟨.text moduleName, .text version⟩).check =
      .ok (.setInstances n ⟨.text moduleName, .text version⟩) := rfl
  constructor
  · intro request hmem
    cases hopted : session.optedIn with
    | false =>
        rw [take_requests_legacy service session hstep hopted] at hmem
        cases hmem
    | true =>
        rw [(take_sent service session hstep hcheck).1, hopted, Dispatch.begin,
          if_pos rfl] at hmem
        exact Dispatch.administered_count service
          (session.circumstances backends) session.store n moduleName version
          request hmem
  · intro method bytes hmem hlen
    cases hopted : session.optedIn with
    | true =>
        rw [take_commands_administered service session hstep hopted] at hmem
        cases hmem
    | false =>
        rw [take_commands service session hstep hcheck hopted] at hmem
        split at hmem
        · next hchannel hrequest =>
            obtain ⟨-, rfl⟩ := Prod.mk.inj (List.mem_singleton.1 hmem)
            obtain ⟨received, x, hreceived, hcount, hx⟩ :=
              Channel.count_arrives hrequest hlen
            refine ⟨received, x, hreceived, hcount, hx, ?_⟩
            rw [Value.equal_int, ← Double.reading_eq_ofInt_iff hx]
            exact Option.some_inj
        · cases hmem

/-- A change of the instance count, on a channel that holds the call back. -/
def setCount (n : Int) : Step :=
  .call (.setInstances (.int n) ⟨.text "web", .text "v1"⟩) .null
    ⟨.error (.unworded .noCredentials), [], .pending⟩

/-- The channel is called for a change of the count if the request can be put
into bytes. -/
theorem setCount_commands {n : Int}
    (h : (Operation.setInstances n
      ⟨.text "web", .text "v1"⟩).request.toOption.map List.length = some 58) :
    ∃ bytes,
      (Operation.setInstances n ⟨.text "web", .text "v1"⟩).request =
        .ok bytes ∧
      bytes.length < Wire.lengthLimit ∧
      commands (take ⟨"shop", true⟩ (initial ⟨[]⟩ (some false))
        (setCount n)).effects = [("SetNumInstances", bytes)] := by
  have hstep : (setCount n).call? =
    some (.setInstances (.int n) ⟨.text "web", .text "v1"⟩,
      ⟨.error (.unworded .noCredentials), [], .pending⟩) := rfl
  cases hrequest :
    (Operation.setInstances n ⟨.text "web", .text "v1"⟩).request with
  | error failure =>
      rw [hrequest] at h
      cases h
  | ok bytes =>
      rw [hrequest] at h
      have hcount : bytes.length = 58 := Option.some.inj h
      refine ⟨bytes, rfl, by rw [hcount]; decide, ?_⟩
      rw [take_commands ⟨"shop", true⟩ (initial ⟨[]⟩ (some false)) hstep rfl
        rfl, hrequest]
      rfl

/-- A large count with few significant bits arrives. -/
theorem count_sent_of_power :
    ∃ bytes received x,
      commands (take ⟨"shop", true⟩ (initial ⟨[]⟩ (some false))
        (setCount (2 ^ 60))).effects =
        [("SetNumInstances", bytes)] ∧
      Channel.decodeResponse bytes = .ok received ∧
        Value.find? "instances" received = some (.double x) ∧
      (Value.double x).equal (.int (2 ^ 60)) = true := by
  obtain ⟨bytes, -, hlen, hcommands⟩ :=
    setCount_commands (n := 2 ^ 60) (by decide +kernel)
  have hstep : (setCount (2 ^ 60)).call? =
    some (.setInstances (.int (2 ^ 60)) ⟨.text "web", .text "v1"⟩,
      ⟨.error (.unworded .noCredentials), [], .pending⟩) := rfl
  obtain ⟨-, hchannel⟩ :=
    count_sent ⟨"shop", true⟩ (initial ⟨[]⟩ (some false)) hstep
  obtain ⟨received, x, hreceived, hcount, -, hequal⟩ :=
    hchannel "SetNumInstances" bytes
      (by rw [hcommands]; exact List.mem_singleton.2 rfl) hlen
  exact ⟨bytes, received, x, hcommands, hreceived, hcount,
    hequal.2 ⟨1, 60, rfl, by decide⟩⟩

/-- The least count that is no double is taken, and the channel is sent another
one for it. -/
theorem count_altered :
    ¬ ∀ (service : Service) (session : Session) (step : Step)
      (backends : Backends) (n : Int)
      (moduleName version method : String) (bytes : List UInt8),
      step.call? = some
        (.setInstances (.int n) ⟨.text moduleName, .text version⟩, backends) →
      (method, bytes) ∈ commands (take service session step).effects →
      ∃ received count, Channel.decodeResponse bytes = .ok received ∧
        Value.find? "instances" received = some count ∧
          count.equal (.int n) = true := by
  intro h
  have hmany : ¬ Double.Fits 9007199254740993 := by
    rintro ⟨m, k, hm, hlt⟩
    have hm : 9007199254740993 = m * 2 ^ k := hm
    cases k with
    | zero => omega
    | succ k =>
        rw [pow_succ, ← Nat.mul_assoc] at hm
        omega
  obtain ⟨bytes, hrequest, hlen, hcommands⟩ :=
    setCount_commands (n := 9007199254740993) (by decide +kernel)
  obtain ⟨received, x, hreceived, hcount, hx⟩ :=
    Channel.count_arrives hrequest hlen
  obtain ⟨received', count, hreceived', hcount', hequal⟩ :=
    h ⟨"shop", true⟩ (initial ⟨[]⟩ (some false))
    (setCount 9007199254740993) _ 9007199254740993 "web" "v1" "SetNumInstances" bytes rfl
    (by rw [hcommands]; exact List.mem_singleton.2 rfl)
  obtain rfl := Except.ok.inj (hreceived.symm.trans hreceived')
  obtain rfl := Option.some.inj (hcount.symm.trans hcount')
  rw [Value.equal_int] at hequal
  exact hmany ((Double.reading_eq_ofInt_iff hx).1 (Option.some.inj hequal))

end Session
end HostedModules
