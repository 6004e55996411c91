/-
HostedModules.Proofs.Session.Flight — calls that are in flight together.

No step changes the futures of a call on the legacy channel but the one that
ends the future that the channel handed out, and that step ends them as if there
were no other calls.

* `alone` — the outcome of a call in a process in which nothing else happens
* `calls_in_flight` — every call in flight ends as it would alone
-/
import HostedModules.Proofs.Channel.Failures
import HostedModules.Proofs.Session.Carried

namespace HostedModules

open Future

namespace Session

/-- The outcome of a call in a process in which nothing else happens: the
channel takes the call, and then ends the future that it handed out in this
way. -/
def alone (service : Service) (environment : Environment)
    (client : Except Failure Client) (replies : List Reply) (call : Call)
    (outcome : Outcome) : Option Outcome :=
  let launched :=
    take service (initial environment (some false))
      (.launch call ⟨client, replies, .pending⟩)
  match launched.source, launched.report with
  | some source, .ok (.future future) =>
    (take service launched.session
      (.settle source outcome)).session.store.outcome? future
  | _, _ => none

/-! ## One call alone -/

/-- What a call ends with alone. -/
theorem alone_eq {service : Service} {call : Call} {operation : Operation}
    (hcheck : call.check = .ok operation) (hchannel : service.hasChannel = true)
    (hencoded : ∃ request, operation.request = .ok request)
    (environment : Environment) (client : Except Failure Client)
    (replies : List Reply) (outcome : Outcome) :
    alone service environment client replies call outcome =
      some (Future.conclude operation.stages outcome) := by
  have hsteady : Steady (initial environment (some false)).store :=
    steady_empty
  have hreaches : Dispatch.Reaches service
      ((initial environment (some false)).circumstances ⟨client, replies,
        .pending⟩) call operation :=
    ⟨hcheck, rfl, hchannel, hencoded, rfl⟩
  have hmakes := start_makes hsteady hreaches
  have hstep :
      (Step.settle (initial environment (some false)).store.next
        outcome).ending?
      (initial environment (some false)).store.next = some outcome := by
        simp [Step.ending?]
  have hsource : (take service (initial environment (some false))
      (.launch call ⟨client, replies, .pending⟩)).source =
        some (initial environment (some false)).store.next :=
    hmakes.source
  unfold alone
  simp only [hsource, hmakes.launched]
  exact (hmakes.carries.ended hmakes.steady hmakes.brought hstep).2.1

/-! ## All calls in flight -/

/-- **Calls in flight do not meet.**  In a process that makes calls, ends the
futures of the channel in any order, changes its opt-in answer and its
environment, and enters and leaves contexts, take any call for which the channel
handed out a future, new to the process, and any moment after it was made.  The
future that the caller got has an outcome exactly if that of the channel has
one: the outcome that the call has alone when the channel ends it so.  A step
that does not end the future of the channel leaves that of the caller as it is,
whatever else it ends; the step that does ends both, and logs the notice of the
operation if there is one.  The log of the process is made of what its futures
log, each once, and the futures of this call have logged that notice and nothing
else. -/
theorem calls_in_flight (service : Service) (environment : Environment)
    (override : Option Bool) (earlier later : List Step) (call : Call)
    (backends : Backends) (source : Nat)
    (horderly : Orderly service (initial environment override)
      (earlier ++ .launch call backends :: later))
    (hsource :
      (take service (after service (initial environment override) earlier)
        (.launch call backends)).source = some source) :
    let before := after service (initial environment override) earlier
    let now := after service (initial environment override)
      (earlier ++ .launch call backends :: later)
    ∃ operation future,
      call.check = .ok operation ∧
      (take service before (.launch call backends)).report =
        .ok (.future future) ∧
      before.store.cell? source = none ∧ source < future ∧
        future < now.store.next ∧
      ((now.store.outcome? future).isSome ↔
        (now.store.outcome? source).isSome) ∧
      (∀ outcome, now.store.outcome? source = some outcome →
        ∀ environment' client replies,
        now.store.outcome? future =
          alone service environment' client replies call outcome) ∧
      (∀ step, now.Allows step → step.ending? source = none ∨
        (now.store.outcome? source).isSome →
        (take service now step).session.store.cell? future =
          now.store.cell? future) ∧
      (∀ step outcome, step.ending? source = some outcome →
        now.store.outcome? source = none →
        (take service now step).session.store.outcome? source = some outcome ∧
        (∀ environment' client replies,
          (take service now step).session.store.outcome? future =
          alone service environment' client replies call outcome) ∧
        ((take service now step).session.store.outcome? future).isSome ∧
        Effect.infos (take service now step).effects =
          operation.notices outcome) ∧
      (log service (initial environment override)
        (earlier ++ .launch call backends :: later)).Perm
        now.store.allLogged ∧
      (List.range' (source + 1) (future - source)).flatMap now.store.logged =
        ((now.store.outcome? source).map operation.notices).getD [] := by
  intro before now
  obtain ⟨hearlier, hlater⟩ := orderly_append.1 horderly
  have hbefore : Steady before.store := steady_after hearlier
  have hnow : Steady now.store := steady_after horderly
  obtain ⟨operation, rfl, hreaches, hmakes, hcarries⟩ :=
    carries_of_source hbefore hsource hlater.2
  rw [← after_append] at hcarries
  have hend := hcarries.outcome? hnow
  have halone := alone_eq hreaches.check hreaches.channel hreaches.encoded
  have hpos : 0 < operation.stages.length := Nat.succ_pos _
  refine ⟨operation, _, hreaches.check, hmakes.launched,
    Store.cell?_eq_none_iff.2 (Nat.le_refl _), Nat.lt_add_of_pos_right hpos,
    hcarries.lt_next, ?_, ?_, ?_, ?_, log_after horderly, ?_⟩
  · rw [hend, Option.isSome_map]
  · intro outcome hs environment' client replies
    rw [hend, hs, halone environment' client replies outcome]
    rfl
  · intro step hallow hstep
    exact hcarries.frame hnow hallow hstep
  · intro step outcome hstep hopen
    obtain ⟨hs, hf, hinfos⟩ := hcarries.ended hnow hopen hstep
    refine ⟨hs, fun environment' client replies => ?_, by rw [hf]; rfl, hinfos⟩
    rw [hf, halone environment' client replies outcome]
  · rw [Nat.add_sub_cancel_left]
    exact hcarries.logged hnow

/-! ## Two starts -/

/-- The start of a module on a channel that takes the call and holds it back. -/
def startOf (moduleName : Value) : Step :=
  .launch (.start ⟨moduleName, .null⟩) ⟨.error Failure.wrongType, [], .pending⟩

/-- The remote service reports that there is nothing to do. -/
def nothingToDoReport : Outcome := .error (Failure.application (.int 5) "")

/-- Two starts are in flight, and the channel ends the future of the first,
which is suppressed. -/
theorem calls_in_flight_of_two_starts :
    Orderly shop fresh [startOf (.text "worker"), startOf .null] ∧
      (take shop fresh (startOf (.text "worker"))).source = some 0 ∧
      (after shop fresh [startOf (.text "worker"), startOf .null,
        .settle 0 nothingToDoReport]).store.outcome? 2 =
        some Operation.nothingToDo := by
  have hmakes := makes_first (.start ⟨.text "worker", .null⟩)
    ⟨.error Failure.wrongType, [], .pending⟩ rfl ⟨_, rfl⟩ rfl
  have hsource : (take shop fresh (startOf (.text "worker"))).source = some 0 :=
    hmakes.source
  have horderly :
      Orderly shop fresh [startOf (.text "worker"), startOf .null] :=
    ⟨True.intro, True.intro, True.intro⟩
  have hopen :
      (after shop fresh [startOf (.text "worker"),
        startOf .null]).store.outcome? 0 = none := by
    have hmoves :
        Moves (take shop fresh (startOf (.text "worker"))).session.store
        (startOf .null)
        (after shop fresh [startOf (.text "worker"), startOf .null]).store _ :=
          take_moves shop True.intro
    have hsame :
        (after shop fresh [startOf (.text "worker"), startOf .null]).store.cell? 0 =
        (take shop fresh (startOf (.text "worker"))).session.store.cell? 0 :=
      hmoves.root_cell? hmakes.carries.known hmakes.carries.root rfl
    rw [Store.outcome?_eq, hsame, ← Store.outcome?_eq]
    exact hmakes.brought
  obtain ⟨operation, future, hcheck, hreport, -, -, -, -, -, -, hend, -⟩ :=
    calls_in_flight shop ⟨[]⟩ none [] [startOf .null] _ _ 0 horderly hsource
  obtain rfl : Operation.start ⟨.text "worker", .null⟩ = operation :=
    Except.ok.inj hcheck
  obtain rfl := hmakes.eq_of_launched hreport
  obtain ⟨-, halone, -, -⟩ :=
    hend (.settle 0 nothingToDoReport) nothingToDoReport rfl hopen
  refine ⟨horderly, hsource,
    (halone ⟨[]⟩ (.error Failure.wrongType) []).trans ?_⟩
  rw [alone_eq rfl rfl ⟨_, rfl⟩]
  have hcode : Channel.ErrorCode.ofValue? (.int 5) = some .unexpectedState :=
    Channel.ErrorCode.ofValue?_eq_some_iff.2
      ((Value.int_equal_int 5 5).trans rfl)
  have hfailed :
      Channel.failed? nothingToDoReport =
      some (Failure.application (.int 5) "") := rfl
  show some (Future.conclude (Operation.leniency _)
    (Derivation.reference _ _)) = _
  rw [reference_recover (Channel.converted_of_failed? hfailed _),
    conclude_leniency]
  simp only [Failure.application, Channel.Command.recover,
    Channel.Command.reportedFailure, hcode]
  rfl

end Session
end HostedModules
