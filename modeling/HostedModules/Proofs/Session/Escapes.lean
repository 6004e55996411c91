/-
HostedModules.Proofs.Session.Escapes — the failures that leave a blocking call
as they are.

What comes out of a future passes through the wait, which lets nothing through
but failures of this library, the set-up, timeouts and fatal ones.  What goes
wrong before there is a future does not pass through it.

* `Session.Escapes` — what goes wrong with arguments of the documented types
  before there is a future, and is of another kind
* `blocking_fails_iff` — these failures, and no others of another kind, leave a
  blocking method
-/
import HostedModules.Proofs.Dispatch.Refused
import HostedModules.Proofs.Operation.Documented
import HostedModules.Session

namespace HostedModules

open Future

/-- A wait lets no other failures through. -/
theorem Store.observe_crosses {outcome : Outcome} {failure : Failure}
    (h : observe outcome = .error failure) :
    failure.kind.crosses = true := by
  cases outcome with
  | ok answer => exact nomatch h
  | error cause =>
      rw [observe_error] at h
      split at h
      · next hfatal =>
          obtain rfl := Except.error.inj h
          simp [Failure.Kind.crosses, hfatal]
      · split at h
        · next hours =>
            obtain rfl := Except.error.inj h
            rcases hours with hours | hours | hours <;>
              simp [Failure.Kind.crosses, hours]
        · split at h
          · obtain rfl := Except.error.inj h
            rfl
          · obtain rfl := Except.error.inj h
            rfl

namespace Session

open Dispatch

/-- What goes wrong before there is a future, and is of a kind that callers
should not be told of. -/
inductive Escapes (service : Service) (session : Session)
    (reaction : Channel.Reaction) :
    Call → Failure → Prop
  /-- The numeral of an instance is too long to be read. -/
  | numeral {call : Call} (hlong : Call.LongNumeral call.number) :
      Escapes service session reaction call (.unworded .wrongValue)
  /-- The number of an instance is too long to be written for the legacy
  channel. -/
  | spelling {call : Call} {n : Int} (hlegacy : session.optedIn = false)
      (hchannel : service.hasChannel = true)
      (hnumber : call.number = .int n)
        (hlong : (Numeral.firstOversized : Int) ≤ n) :
      Escapes service session reaction call (.unworded .wrongValue)
  /-- The instance count is beyond the numbers that a request can hold. -/
  | range {call : Call} {n : Int} (hlegacy : session.optedIn = false)
      (hchannel : service.hasChannel = true)
      (hcount : call.count = .int n) (hlarge : Double.ofInt? n = none) :
      Escapes service session reaction call (.unworded .overflow)
  /-- The legacy channel does not take the call, and says so with a failure of
  its own. -/
  | thrown {call : Call} {operation : Operation} {request : List UInt8}
      {failure : Failure}
      (hlegacy : session.optedIn = false) (hchannel : service.hasChannel = true)
      (hcheck : call.check = .ok operation)
        (hrequest : operation.request = .ok request)
      (hthrows : reaction = .throws failure)
        (hforeign : failure.kind.crosses = false) :
      Escapes service session reaction call failure

/-- A failure that callers are not told of leaves a blocking call only if there
was no future to wait for. -/
theorem report_error_iff {session : Session} {limit : Value} {attempt : Attempt}
    {failure : Failure} (hforeign : failure.kind.crosses = false) :
    (session.conclude (awaited limit) attempt).report = .error failure ↔
      attempt.future = .error failure := by
  show attempt.future.bind (awaited limit attempt.store) = _ ↔ _
  cases attempt.future with
  | error cause =>
      exact ⟨fun h => congrArg _ (Except.error.inj h),
        fun h => congrArg _ (Except.error.inj h)⟩
  | ok id =>
      refine ⟨fun h => ?_, fun h => (nomatch h)⟩
      simp only [Except.bind, awaited] at h
      cases hwait : attempt.store.wait? limit id with
      | none => rw [hwait] at h; exact nomatch h
      | some outcome =>
          obtain ⟨source, -, rfl⟩ := Option.map_eq_some_iff.1 hwait
          rw [hwait] at h
          rw [Store.observe_crosses (Failure.map_eq_error_iff.1 h)] at hforeign
          exact nomatch hforeign

/-- Each of these failures leaves a blocking call as it is, and no other does
that callers are not told of. -/
theorem call_fails_iff (service : Service) (session : Session) (call : Call)
    (limit : Value) (backends : Backends) (hdocumented : call.Documented)
    (failure : Failure) :
    ((take service session (.call call limit backends)).report =
      .error failure ∧
        failure.kind.crosses = false) ↔
      Escapes service session backends.reaction call failure := by
  have hreport :
      ((take service session (.call call limit backends)).report =
        .error failure ∧
        failure.kind.crosses = false) ↔
        Refuses service (session.circumstances backends) call failure ∧
          failure.kind.crosses = false :=
    and_congr_left fun hforeign =>
      (report_error_iff hforeign).trans startCall_error_iff
  rw [hreport]
  constructor
  · rintro ⟨hrefuses, hforeign⟩
    cases hrefuses with
    | argument hcheck =>
        rcases Call.check_error hdocumented hcheck with hcrosses | ⟨rfl, hlong⟩
        · rw [hcrosses] at hforeign
          exact nomatch hforeign
        · exact .numeral hlong
    | context hcheck hopted hresolve =>
        rw [Operation.crosses_of_resolve hresolve] at hforeign
        exact nomatch hforeign
    | channel hcheck hlegacy hchannel => exact nomatch hforeign
    | request hcheck hlegacy hchannel hrequest =>
        rcases (Call.request_error_iff hdocumented hcheck).1 hrequest with
          ⟨rfl, n, hnumber, hlong⟩ | ⟨rfl, n, hcount, hlarge⟩
        · exact .spelling hlegacy hchannel hnumber hlong
        · exact .range hlegacy hchannel hcount hlarge
    | thrown hcheck hlegacy hchannel hrequest hthrows =>
        exact .thrown hlegacy hchannel hcheck hrequest hthrows hforeign
  · intro hescapes
    cases hescapes with
    | numeral hlong => exact ⟨.argument (Call.check_long hlong), rfl⟩
    | spelling hlegacy hchannel hnumber hlong =>
        obtain ⟨operation, hcheck⟩ := Call.check_of_number hnumber (by omega)
        exact ⟨.request hcheck hlegacy hchannel
          ((Call.request_error_iff hdocumented hcheck).2
            (Or.inl ⟨rfl, _, hnumber, hlong⟩)), rfl⟩
    | range hlegacy hchannel hcount hlarge =>
        obtain ⟨operation, hcheck⟩ := Call.check_of_count hcount
        exact ⟨.request hcheck hlegacy hchannel
          ((Call.request_error_iff hdocumented hcheck).2
            (Or.inr ⟨rfl, _, hcount, hlarge⟩)), rfl⟩
    | thrown hlegacy hchannel hcheck hrequest hthrows hforeign =>
        exact ⟨.thrown hcheck hlegacy hchannel hrequest hthrows, hforeign⟩

/-- The number of the instance that handles the request is there to be read, but
too long to be written. -/
def LongAttribute (bindings : Bindings) : Prop :=
  ∃ context number, bindings.current = .ok context ∧
    Value.find? Context.instanceAttribute context.attributeList = some number ∧
      number.writable = false

theorem spelled_error_iff {number : Value} {failure : Failure} :
    number.spelled = .error failure ↔ failure = .unworded .wrongValue ∧
      number.writable = false := by
  unfold Value.spelled
  cases number.writable with
  | true => exact ⟨fun h => (nomatch h), fun h => (nomatch h.2)⟩
  | false =>
      exact ⟨fun h => ⟨(Except.error.inj h).symm, rfl⟩, fun ⟨h, _⟩ => h ▸ rfl⟩

theorem currentInstance_eq {bindings : Bindings} {context : Context}
    (h : bindings.current = .ok context) :
    bindings.currentInstance =
      match (Value.find? Context.instanceAttribute context.attributeList).getD
        .null with
      | .null =>
          Except.error (.plain .instanceUnavailable "Instance id unavailable")
      | number => number.spelled := by
  unfold Bindings.currentInstance
  rw [h]
  rfl

theorem currentInstance_fails_iff {bindings : Bindings} {failure : Failure} :
    (bindings.currentInstance = .error failure ∧ failure.kind.crosses = false) ↔
      failure = .unworded .wrongValue ∧ LongAttribute bindings := by
  constructor
  · rintro ⟨h, hforeign⟩
    cases hcurrent : bindings.current with
    | error cause =>
        rw [Bindings.currentInstance, hcurrent] at h
        obtain rfl := Except.error.inj h
        rw [Bindings.crosses_of_current hcurrent] at hforeign
        exact nomatch hforeign
    | ok context =>
        rw [currentInstance_eq hcurrent] at h
        split at h
        · obtain rfl := Except.error.inj h
          exact nomatch hforeign
        · next number hnumber =>
            obtain ⟨rfl, hlong⟩ := spelled_error_iff.1 h
            refine ⟨rfl, context, _, hcurrent, ?_, hlong⟩
            cases hfind :
              Value.find? Context.instanceAttribute context.attributeList with
            | none => exact absurd (by rw [hfind]; rfl) hnumber
            | some found => rfl
  · rintro ⟨rfl, context, number, hcurrent, hfind, hlong⟩
    refine ⟨?_, rfl⟩
    have hspelled : number.spelled = .error (.unworded .wrongValue) :=
      spelled_error_iff.2 ⟨rfl, hlong⟩
    rw [currentInstance_eq hcurrent, hfind, Option.getD_some]
    cases number with
    | null => exact nomatch hlong
    | _ => exact hspelled

/-- **What leaves a blocking method.**  With arguments of the documented types,
whatever the opt-in flag answers, the context is and the backends do, every
failure of a call is one of this library, of the set-up, a timeout or fatal, but
for the following: the numeral of an instance that is too long to be read, and
on the legacy channel the number of an instance that is too long to be written,
an instance count that is out of the range of a request, and the failure with
which the channel itself turns a call down.  Each of these leaves the call as it
is.  Of the methods that read the context, the one for the instance can fail in
another way only if the number of the instance is too long to be written. -/
theorem blocking_fails_iff (service : Service) (session : Session) (call : Call)
    (limit : Value) (backends : Backends) (hdocumented : call.Documented)
    (failure : Failure) :
    (((take service session (.call call limit backends)).report =
      .error failure ∧
        failure.kind.crosses = false) ↔
          Escapes service session backends.reaction call failure) ∧
      (session.bindings.currentModule = .error failure →
        failure.kind.crosses = true) ∧
      (session.bindings.currentVersion = .error failure →
        failure.kind.crosses = true) ∧
      ((session.bindings.currentInstance = .error failure ∧
        failure.kind.crosses = false) ↔
        failure = .unworded .wrongValue ∧ LongAttribute session.bindings) :=
  ⟨call_fails_iff service session call limit backends hdocumented failure,
    fun h => Bindings.crosses_of_current (Failure.map_eq_error_iff.1 h),
    fun h => Bindings.crosses_of_current (Failure.map_eq_error_iff.1 h),
      currentInstance_fails_iff⟩

/-- An instance number of more digits than are written is complained of in the
words of the component that cannot write it. -/
theorem blocking_fails_long_instance :
    (take ⟨"shop", true⟩ (initial ⟨[]⟩ (some false))
      (.call (.instanceHostname (.int Numeral.firstOversized) ⟨.null, .null⟩) .null
        ⟨.error (.unworded .noCredentials), [], .pending⟩)).report =
          .error (.unworded .wrongValue) :=
  ((blocking_fails_iff ⟨"shop", true⟩ (initial ⟨[]⟩ (some false))
    (.instanceHostname (.int Numeral.firstOversized) ⟨.null, .null⟩) .null
    ⟨.error (.unworded .noCredentials), [], .pending⟩ ⟨trivial, trivial,
      trivial, fun _ _ h => nomatch h⟩
    (.unworded .wrongValue)).1.2 (.spelling rfl rfl rfl (Int.le_refl _))).1

/-- Callers are told of a failure that no one declared: the channel turns the
call down because its socket is closed. -/
theorem closed_socket_leaves :
    ¬ ∀ (service : Service) (session : Session) (call : Call)
      (limit : Value) (backends : Backends)
      (failure : Failure), call.Documented →
      (take service session (.call call limit backends)).report =
        .error failure →
      failure.kind.crosses = true := by
  intro h
  have hcrosses := h ⟨"shop", true⟩ (initial ⟨[]⟩ (some false)) .modules .null
    ⟨.error (.unworded .noCredentials), [],
      .throws (.plain .runtime "socket closed")⟩
    (.plain .runtime "socket closed") ⟨trivial, trivial, trivial,
      fun _ _ h => nomatch h⟩ rfl
  exact nomatch hcrosses

end Session
end HostedModules
