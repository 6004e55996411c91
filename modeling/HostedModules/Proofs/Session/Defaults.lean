/-
HostedModules.Proofs.Session.Defaults — what comes of names that a call leaves
out.

On the administrative service a module or a version that is left out is the
current one, and nothing else that is bound matters.  On the legacy channel the
remote service fills in what is left out: it does not arrive there, and no
context matters at all.

* `Step.withCall` — the same step with another call
* `startCall_filled`, `startCall_unbound` — names that are left out, with and
  without a current context
* `defaults_from_context` — what a call that may leave names out comes to, on
  either backend
-/
import HostedModules.Proofs.Channel.Arguments
import HostedModules.Proofs.Operation.Defaults
import HostedModules.Proofs.Session.Updates

namespace HostedModules

open Effect

namespace Dispatch

variable (service : Service) {circumstances : Circumstances} {call : Call}
    (store : Store)

/-- Where a context is bound, leaving its names out is the same as giving
them. -/
theorem startCall_filled {context : Context} {outer : Bindings}
    (hopted : circumstances.optedIn = true)
    (hbound : circumstances.bindings = context :: outer) :
    startCall service circumstances
      (call.filled context.moduleId context.version) store =
      startCall service circumstances call store := by
  unfold startCall
  rw [call.check_filled]
  cases call.check with
  | error failure => rfl
  | ok operation =>
      have hadministered : administered service circumstances
          (operation.filled context.moduleId context.version) store =
            administered service circumstances operation store := by
        unfold administered
        rw [operation.resolve_filled context outer, hbound]
      have hlenient :
          lenient (operation.filled context.moduleId context.version) =
          lenient operation := by
        funext attempt
        unfold lenient
        rw [operation.filled_suppression?]
      simp only [Except.map, start, consult, begin, route, hopted, if_true,
        operation.filled_label, hlenient, hadministered]

/-- Where no context is bound, a call that leaves a name out is refused once its
arguments have passed their check. -/
theorem startCall_unbound {operation : Operation}
    (hcheck : call.check = .ok operation)
    (hopted : circumstances.optedIn = true)
    (hunbound : circumstances.bindings = []) (homitted : .null ∈ call.names) :
    startCall service circumstances call store =
      (Attempt.refused Target.noContext store [] circumstances.replies).after
        [.consulted true, route true operation] := by
  have hresolve : operation.resolve circumstances.bindings =
      .error Target.noContext := by
    rw [hunbound]
    exact Operation.resolve_unbound (Call.names_of_check hcheck ▸ homitted)
  have hlenient :
      lenient operation
      (.refused Target.noContext store [] circumstances.replies) =
      .refused Target.noContext store [] circumstances.replies := by
    unfold lenient
    cases operation.suppression? <;> rfl
  simp only [startCall, hcheck, start, consult, begin, administered, hopted,
    if_true, hresolve, hlenient]

end Dispatch

namespace Session

/-- The same step with another call. -/
def Step.withCall (call : Call) : Step → Step
  | .call _ limit backends => .call call limit backends
  | .launch _ backends => .launch call backends
  | step => step

/-- Something that was taken, with other contexts bound. -/
def Taken.rebound (bindings : Bindings) (taken : Taken) : Taken :=
  { taken with session := { taken.session with bindings } }

variable (service : Service) {session : Session} {step : Step} {call : Call}
    {backends : Backends}

/-- Steps come to the same if their calls do. -/
theorem take_withCall (hstep : step.call? = some (call, backends))
    {other : Call}
    (h : Dispatch.startCall service (session.circumstances backends) other
      session.store =
      Dispatch.startCall service (session.circumstances backends) call
      session.store) :
    take service session (step.withCall other) = take service session step := by
  rcases eq_of_call? hstep with ⟨limit, rfl⟩ | rfl <;>
    simp only [Step.withCall, take, h]

/-- If other contexts make no difference to a call, they make none to its
step. -/
theorem take_rebound (hstep : step.call? = some (call, backends))
    {bindings : Bindings}
    (h : ∀ operation, call.check = .ok operation → session.optedIn = true →
      operation.resolve bindings = operation.resolve session.bindings) :
    take service { session with bindings } step =
      (take service session step).rebound bindings := by
  have hstart : Dispatch.startCall service
      (({ session with bindings } : Session).circumstances backends) call
        session.store =
      Dispatch.startCall service (session.circumstances backends) call
        session.store :=
    @Dispatch.startCall_rebound bindings (session.circumstances backends) call h
      service session.store
  rcases eq_of_call? hstep with ⟨limit, rfl⟩ | rfl <;>
    simp only [take, hstart] <;> rfl

/-- A call that could not be started is reported as such. -/
theorem report_of_failed (hstep : step.call? = some (call, backends))
    {failure : Failure}
    (h : (Dispatch.startCall service (session.circumstances backends) call
      session.store).future = .error failure) :
    (take service session step).report = .error failure := by
  rcases eq_of_call? hstep with ⟨limit, rfl⟩ | rfl <;>
    simp only [take, conclude, h] <;> rfl

/-- What a call with documented arguments sends over the channel holds the
arguments that were given, and no others. -/
theorem given_arguments_arrive (hstep : step.call? = some (call, backends))
    (hopted : session.optedIn = false) (hdocumented : call.Documented)
    {method : String} {bytes : List UInt8}
    (hsent : (method, bytes) ∈ commands (take service session step).effects)
    (hlen : bytes.length < Wire.lengthLimit) :
    ∃ received, Channel.decodeResponse bytes = .ok received ∧
      (received.map Prod.fst).Nodup ∧
      (∀ key, key ∈ received.map Prod.fst ↔ ∃ v, (key, v) ∈ call.arguments ∧
        v ≠ .null) ∧
      ∀ s, (call.target.moduleName = .text s → ("module", .text s) ∈ received) ∧
        (call.target.version = .text s → ("version", .text s) ∈ received) := by
  cases hcheck : call.check with
  | error failure =>
      rw [take_refused service session hstep hcheck] at hsent
      exact nomatch hsent
  | ok operation =>
      rw [take_commands service session hstep hcheck hopted] at hsent
      split at hsent
      · next bytes' _ hrequest =>
          obtain ⟨-, rfl⟩ := Prod.mk.inj (List.mem_singleton.1 hsent)
          exact Call.arguments_arrive hdocumented hcheck hrequest hlen
      · exact nomatch hsent

/-- **What is left out of a call.**  On the administrative service, where a
context is bound, leaving out the module, the version or both is the same in
every respect as giving the module of the context, and its version up to the
first dot.  If all names are given, it does not matter which contexts are bound,
if any.  If one is left out and no context is bound, no client is built and
nothing is sent; the call fails for the missing context, unless an argument is
refused first.  On the legacy channel it never matters which contexts are bound,
and the arguments that arrive in a request are those that were given. -/
theorem defaults_from_context (service : Service) (session : Session)
    {step : Step} {call : Call} {backends : Backends}
    (hstep : step.call? = some (call, backends)) :
    let taken := take service session step
    (session.optedIn = true →
      (∀ context outer version, session.bindings = context :: outer →
        Context.IsUpToDot version context.versionId →
        take service session
          (step.withCall (call.filled context.moduleId version)) = taken) ∧
      ((∀ name ∈ call.names, name ≠ .null) → ∀ bindings,
        take service { session with bindings } step = taken.rebound bindings) ∧
      (.null ∈ call.names → session.bindings = [] →
        labels taken.effects = [] ∧ requests taken.effects = [] ∧
          commands taken.effects = [] ∧
        (∀ operation, call.check = .ok operation → taken.report =
          .error (.configuration
            "Operation not allowed outside of a bound execution context")) ∧
        ∀ failure, call.check = .error failure →
          taken.report = .error failure)) ∧
    (session.optedIn = false →
      (∀ bindings, take service { session with bindings } step =
        taken.rebound bindings) ∧
      (call.Documented → ∀ method bytes,
        (method, bytes) ∈ commands taken.effects →
        bytes.length < Wire.lengthLimit →
        ∃ received, Channel.decodeResponse bytes = .ok received ∧
          (received.map Prod.fst).Nodup ∧
          (∀ key, key ∈ received.map Prod.fst ↔ ∃ v, (key, v) ∈ call.arguments ∧
            v ≠ .null) ∧
          ∀ s, (call.target.moduleName = .text s →
            ("module", .text s) ∈ received) ∧
            (call.target.version = .text s →
              ("version", .text s) ∈ received))) := by
  intro taken
  refine ⟨fun hopted => ⟨?_, fun hgiven bindings => ?_,
    fun homitted hunbound => ?_⟩, fun hopted => ⟨?_, ?_⟩⟩
  · intro context outer version hbound hversion
    obtain rfl := Context.isUpToDot_iff.1 hversion
    exact take_withCall service hstep
      (Dispatch.startCall_filled service session.store hopted hbound)
  · refine take_rebound service hstep fun operation hcheck _ => ?_
    have hnamed : ∀ name ∈ operation.names, name ≠ .null :=
      Call.names_of_check hcheck ▸ hgiven
    rw [Operation.resolve_named hnamed, Operation.resolve_named hnamed]
  · cases hcheck : call.check with
    | error failure =>
        have heffects : taken.effects = [] :=
          take_refused service session hstep hcheck
        have hreport : taken.report = .error failure := by
          refine report_of_failed service hstep ?_
          rw [Dispatch.startCall, hcheck]
          rfl
        rw [heffects, hreport]
        refine ⟨rfl, rfl, rfl, fun operation h => ?_, fun other h => ?_⟩
        · cases h
        · exact congrArg _ (Except.error.inj h)
    | ok operation =>
        have hstart :=
          @Dispatch.startCall_unbound service (session.circumstances backends)
            call session.store
          operation hcheck hopted hunbound homitted
        have heffects :
            taken.effects = [.consulted true, Dispatch.route true operation] := by
          rw [show taken.effects = _ from take_effects service session hstep, hstart]
          rfl
        have hreport : taken.report = .error Target.noContext := by
          refine report_of_failed service hstep ?_
          rw [hstart]
          rfl
        rw [heffects, hreport]
        refine ⟨rfl, rfl, rfl, fun _ _ => rfl, fun failure h => ?_⟩
        cases h
  · exact fun bindings => take_rebound service hstep fun _ _ h =>
      absurd (h.symm.trans hopted) (by decide)
  · exact fun hdocumented method bytes =>
      given_arguments_arrive service hstep hopted hdocumented

/-- The number of instances of the current version. -/
def countHere : Step :=
  .call (.countInstances ⟨.null, .null⟩) .null ⟨.ok ⟨"", none⟩,
    [.response 404 none ""], .pending⟩

/-- The number of instances of a version that is named. -/
def countThere : Step :=
  .call (.countInstances ⟨.text "web", .text "v2"⟩) .null ⟨.ok ⟨"", none⟩,
    [.response 404 none ""], .pending⟩

/-- In a version that is deployed with a suffix, the suffix is left out of what
is filled in. -/
theorem defaults_from_context_of_deployed :
    let session : Session :=
      { initial ⟨[]⟩ (some true) with bindings := [⟨"web", "v2.394.7", none⟩] }
    take ⟨"shop", false⟩ session countThere =
      take ⟨"shop", false⟩ session countHere := by
  intro session
  have hstep : countHere.call? =
      some (.countInstances ⟨.null, .null⟩,
        ⟨.ok ⟨"", none⟩, [.response 404 none ""], .pending⟩) := rfl
  have hversion : Context.IsUpToDot "v2" "v2.394.7" :=
    ⟨by decide, .inr ⟨"394.7", rfl⟩⟩
  have hthere : countHere.withCall
      ((Call.countInstances ⟨.null, .null⟩).filled "web" "v2") = countThere := rfl
  obtain ⟨hadministered, -⟩ :=
    defaults_from_context ⟨"shop", false⟩ session hstep
  rw [← hthere]
  exact (hadministered rfl).1 ⟨"web", "v2.394.7", none⟩ [] "v2" rfl hversion

/-- The address of an instance that is named by a word. -/
def wordInstance : Step :=
  .call (.instanceHostname (.text "x") ⟨.null, .null⟩) .null ⟨.ok ⟨"", none⟩,
    [], .pending⟩

/-- Where no context is bound, a call that leaves names out may still fail for
another reason. -/
theorem missing_context_not_first :
    ¬ ∀ (service : Service) (session : Session) (step : Step)
      (call : Call) (backends : Backends),
      step.call? = some (call, backends) → session.optedIn = true →
        .null ∈ call.names → session.bindings = [] →
      ∃ failure, failure.kind = .configuration ∧
        (take service session step).report = .error failure := by
  intro h
  obtain ⟨failure, hkind, hreport⟩ :=
    h ⟨"shop", false⟩ (initial ⟨[]⟩ (some true)) wordInstance _ _ rfl rfl
      List.mem_cons_self rfl
  obtain rfl : _ = failure := Except.error.inj hreport
  exact absurd hkind (by decide)

end Session
end HostedModules
