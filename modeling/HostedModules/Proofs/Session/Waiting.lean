/-
HostedModules.Proofs.Session.Waiting — failed calls, as callers that wait for
them see them.

* `awaited_eq` — a caller that waits for a future that has ended is told at
  once, whatever the limit
* `Carries.awaited_ended`, `Makes.called` — what the caller of a call is told
  that has ended
* `failed_call_ends` — every call that the channel takes and that fails there
  ends as the table of failures tells
-/
import HostedModules.Proofs.Channel.Failures
import HostedModules.Proofs.Session.Carried

namespace HostedModules
namespace Session

open Future

/-- A caller that waits for a future that has ended is told at once, whatever
the limit. -/
theorem awaited_eq {store : Store} {id : Nat} {outcome : Outcome}
    (h : store.outcome? id = some outcome) (limit : Value) :
    awaited limit store id = (Store.observe outcome).map .answer := by
  unfold awaited Store.wait? Store.result?
  rw [h]
  rfl

/-- What a caller is told that waits for a call whose future of the channel has
ended. -/
theorem Carries.awaited_ended {store : Store} {source : Nat}
    {operation : Operation} (h : Carries store source operation)
    (hs : Steady store) {outcome : Outcome}
    (hended : store.outcome? source = some outcome) (limit : Value) :
    awaited limit store (source + operation.stages.length) =
      (Store.observe (Future.conclude operation.stages outcome)).map .answer := by
  have hend : store.outcome? (source + operation.stages.length) =
      some (Future.conclude operation.stages outcome) := by
    rw [h.outcome? hs, hended]
    rfl
  rw [awaited_eq hend limit]

/-- What a caller is told that waits for a call whose future of the channel has
failed. -/
theorem Carries.awaited_failed {store : Store} {source : Nat}
    {operation : Operation} (h : Carries store source operation)
    (hs : Steady store) {outcome : Outcome} {failure : Failure}
    (hended : store.outcome? source = some outcome)
    (hfailed : Channel.failed? outcome = some failure) (limit : Value) :
    awaited limit store (source + operation.stages.length) =
      (operation.failedEnd failure).map .answer := by
  rw [h.awaited_ended hs hended, observe_conclude operation hfailed]

/-- What a caller is told that makes a call and waits, if the channel brings the
outcome at once. -/
theorem Makes.called {service : Service} {session : Session} {call : Call}
    {backends : Backends} {operation : Operation}
    (h : Makes (Dispatch.startCall service (session.circumstances backends)
      call session.store) session.store operation backends.reaction)
    {outcome : Outcome} (houtcome : backends.reaction.outcome? = some outcome)
    (limit : Value) :
    (take service session (.call call limit backends)).report =
      (Store.observe (Future.conclude operation.stages outcome)).map .answer := by
  show Except.bind _ _ = _
  rw [h.future]
  exact h.carries.awaited_ended h.steady (h.brought.trans houtcome) limit

/-- **Failures of the channel reach callers as the table tells.**  Take a call
for which the channel handed out a future, in any process and after any steps.
If that future has failed, or ended with an answer that cannot be read, then a
caller that waits for the call gets what the table `Operation.failedEnd` has for
its operation and the failure, whatever its limit, and so does a caller that
makes the call and waits in one step.  An answer that cannot be read is always
an unexpected failure. -/
theorem failed_call_ends (service : Service) (environment : Environment)
    (override : Option Bool) (earlier later : List Step) (call : Call)
    (backends : Backends) (source : Nat)
    (horderly : Orderly service (initial environment override)
      (earlier ++ .launch call backends :: later))
    (hsource :
      (take service (after service (initial environment override) earlier)
        (.launch call backends)).source = some source) :
    let before := after service (initial environment override) earlier
    let now := after service (initial environment override)
      (earlier ++ .launch call backends :: later)
    ∃ operation future,
      call.check = .ok operation ∧
      (take service before (.launch call backends)).report =
        .ok (.future future) ∧
      (∀ outcome failure limit, now.store.outcome? source = some outcome →
        Channel.failed? outcome = some failure →
        (take service now (.wait future limit)).report =
          (operation.failedEnd failure).map .answer) ∧
      (∀ outcome failure limit, backends.reaction.outcome? = some outcome →
        Channel.failed? outcome = some failure →
        (take service before (.call call limit backends)).report =
          (operation.failedEnd failure).map .answer) ∧
      ∀ answer failure, Channel.failed? (.ok answer) = some failure →
        ∃ raised, operation.failedEnd failure = .error raised ∧
          raised.kind = .unexpected ∧
          (raised = failure ∨ raised.cause = some failure) := by
  intro before now
  obtain ⟨hearlier, hlater⟩ := orderly_append.1 horderly
  have hbefore : Steady before.store := steady_after hearlier
  have hnow : Steady now.store := steady_after horderly
  obtain ⟨operation, rfl, hreaches, hmakes, hcarries⟩ :=
    carries_of_source hbefore hsource hlater.2
  rw [← after_append] at hcarries
  refine ⟨operation, _, hreaches.check, hmakes.launched, ?_, ?_, ?_⟩
  · intro outcome failure limit hended hfailed
    exact hcarries.awaited_failed hnow hended hfailed limit
  · intro outcome failure limit hended hfailed
    show Except.bind _ _ = _
    rw [hmakes.future]
    exact hmakes.carries.awaited_failed hmakes.steady
      (hmakes.brought.trans hended) hfailed limit
  · intro answer failure hfailed
    exact operation.failedEnd_unreadable hfailed

/-- The versions of the module that is meant when none is named, on a channel
that holds the call back. -/
def listVersions : Step :=
  .launch (.versions .null) ⟨.error Failure.wrongType, [], .pending⟩

/-- The remote service reports a truth value that equals the code of an unknown
module. -/
def unknownModuleReport : Failure :=
  Failure.application (.bool true) "no such module"

/-- The channel fails a call that it held back, and a caller that waits is told
of an unknown module. -/
theorem failed_call_ends_unknown_module :
    Orderly shop fresh [listVersions, .settle 0 (.error unknownModuleReport)] ∧
      (take shop fresh listVersions).source = some 0 ∧
      (after shop fresh [listVersions,
        .settle 0 (.error unknownModuleReport)]).store.outcome? 0 =
        some (.error unknownModuleReport) ∧
      Channel.failed? (.error unknownModuleReport) = some unknownModuleReport ∧
      (take shop (after shop fresh [listVersions,
        .settle 0 (.error unknownModuleReport)])
        (.wait 1 .null)).report =
          .error (.because .invalidModule
            (some "Unknown module") unknownModuleReport) := by
  have hmakes := makes_first (.versions .null)
    ⟨.error Failure.wrongType, [], .pending⟩ rfl ⟨_, rfl⟩ rfl
  obtain ⟨horderly, hsource, hended⟩ :=
    ended_first hmakes rfl (.error unknownModuleReport)
  obtain ⟨operation, future, hcheck, hreport, hwait, -⟩ :=
    failed_call_ends shop ⟨[]⟩ none [] [.settle 0 (.error unknownModuleReport)]
      _ _ 0 horderly hsource
  obtain rfl : Operation.versions .null = operation := Except.ok.inj hcheck
  obtain rfl := hmakes.eq_of_launched hreport
  refine ⟨horderly, hsource, hended, rfl, (hwait _ _ .null hended rfl).trans ?_⟩
  have hcode : (Value.bool true).equal (.int 1) = true :=
    (Value.equal_int _ 1).2 rfl
  rw [unknownModuleReport, Operation.failedEnd_application,
    Operation.reportedEnd, if_pos hcode]
  rfl

end Session
end HostedModules
