/-
HostedModules.Proofs.Session.StandAlone — every call stands alone.

What came before a call matters to it only through the answer that the opt-in
flag gives now, and through the context that is bound now.

* `Step.call?` — the call that a step makes
* `Taken.result` — what a step ends with, a future being told by its outcome
* `sourcesFirst_after` — in every run, derived futures are newer than their
  sources, whoever sets which future
* `calls_stand_alone` — one backend for each call, and nothing of it from
  earlier calls
-/
import HostedModules.Proofs.Dispatch.Exclusive
import HostedModules.Proofs.Dispatch.Seen
import HostedModules.Proofs.Session.Run

namespace HostedModules
namespace Session

open Future Effect

/-- The call that a step makes, and what the backends have in store for it. -/
def Step.call? : Step → Option (Call × Backends)
  | .call made _ backends => some (made, backends)
  | .launch made backends => some (made, backends)
  | _ => none

theorem eq_of_call? {step : Step} {call : Call} {backends : Backends}
    (h : step.call? = some (call, backends)) :
    (∃ limit, step = .call call limit backends) ∨
      step = .launch call backends := by
  cases step with
  | call made limit backends =>
      obtain ⟨rfl, rfl⟩ := Prod.mk.inj (Option.some.inj h)
      exact Or.inl ⟨limit, rfl⟩
  | launch made backends =>
      obtain ⟨rfl, rfl⟩ := Prod.mk.inj (Option.some.inj h)
      exact Or.inr rfl
  | _ => exact nomatch h

/-- What a step ends with.  A future is told by its outcome, for its number only
counts the futures made before. -/
def Taken.result (taken : Taken) : Except Failure (Report ⊕ Option Outcome) :=
  taken.report.map fun
    | .future id => .inr (taken.session.store.outcome? id)
    | report => .inl report

/-! ## Runs -/

/-- Every step keeps what the operations on futures keep, also one that sets a
derived future. -/
theorem sourcesFirst_take (service : Service) {session : Session}
    (h : session.store.SourcesFirst) (step : Step) :
    (take service session step).session.store.SourcesFirst := by
  have hcall : ∀ call backends, (Dispatch.startCall service
      (session.circumstances backends) call session.store).store.SourcesFirst :=
    fun call backends => (Dispatch.alike_startCall h h service
      (session.circumstances backends) call).sound.sourcesFirst
  cases step with
  | call call limit backends => exact hcall call backends
  | launch call backends => exact hcall call backends
  | settle id outcome =>
      cases hopen : session.store.isOpen id with
      | true =>
          have hset : session.store.set id outcome =
              .ok (session.store.finish id (.finished outcome)) := if_pos hopen
          simp only [take, hset]
          exact h.finish id _
      | false =>
          have hset : session.store.set id outcome =
              .error (Failure.unworded .invalidState) :=
            if_neg (by rw [hopen]; exact Bool.false_ne_true)
          simp only [take, hset]
          exact h
  | cancel id =>
      rcases session.store.cancel_cases id with ⟨-, -, heq⟩ | ⟨-, answer, heq⟩
      · simp only [take, heq]
        exact h.finish id _
      · simp only [take, heq]
        exact h
  | wait id limit => exact h
  | optIn answer => exact h
  | setVariable name value => exact h
  | bind context => exact h
  | unbind => exact h

/-- In every run from the start, derived futures are newer than their
sources. -/
theorem sourcesFirst_after (service : Service) (environment : Environment)
    (override : Option Bool) (steps : List Step) :
    (after service (initial environment override) steps).store.SourcesFirst := by
  have hrun : ∀ {session : Session}, session.store.SourcesFirst →
      (after service session steps).store.SourcesFirst := by
    induction steps with
    | nil => exact fun h => h
    | cons step rest ih => exact fun h => ih (sourcesFirst_take service h step)
  exact hrun (Store.sourcesFirst_after [])

/-! ## One call -/

/-- What a caller that waits is told depends on what is seen of the call. -/
theorem result_awaited (session : Session) (limit : Value) (attempt : Attempt) :
    (session.conclude (awaited limit) attempt).result =
      attempt.seen.future.bind fun outcome =>
        match (outcome.or ((expiry? limit).map .error)).map Store.observe with
        | some outcome => outcome.map fun answer => .inl (.answer answer)
        | none => .ok (.inl .blocked) := by
  unfold Attempt.seen Taken.result conclude
  cases attempt.future with
  | error failure => rfl
  | ok id =>
      simp only [Except.bind, Except.map, awaited, Store.wait?, Store.result?]
      cases ((attempt.store.outcome? id).or ((expiry? limit).map .error)).map
        Store.observe with
      | none => rfl
      | some outcome => cases outcome <;> rfl

/-- A caller that keeps the future of a call has what is seen of the call. -/
theorem result_launched (session : Session) (attempt : Attempt) :
    (session.conclude (fun _ id => .ok (.future id)) attempt).result =
      attempt.seen.future.map .inr := by
  unfold Attempt.seen Taken.result conclude
  cases attempt.future <;> rfl

/-- The same call in the same circumstances is seen alike in every session. -/
theorem take_alike (service : Service) {session session' : Session}
    (h : session.store.SourcesFirst) (h' : session'.store.SourcesFirst)
    (hopted : session'.optedIn = session.optedIn)
    (hcurrent : session'.bindings.current = session.bindings.current)
    {step : Step} {call : Call} {backends : Backends}
    (hstep : step.call? = some (call, backends)) :
    (take service session' step).result = (take service session step).result ∧
      (take service session' step).effects =
        (take service session step).effects ∧
      (take service session' step).unread =
        (take service session step).unread := by
  have hcircumstances :
      ∀ store, Dispatch.startCall service (session'.circumstances backends) call store =
      Dispatch.startCall service (session.circumstances backends) call store := by
    intro store
    have hbindings := Dispatch.startCall_bindings
      (show session'.bindings.current =
        (session.circumstances backends).bindings.current from hcurrent)
      service call store
    rw [← hbindings, circumstances, circumstances, hopted]
  have hseen :=
    (Dispatch.alike_startCall h h' service (session.circumstances backends)
      call).seen
  rw [← hcircumstances session'.store] at hseen
  have hfuture := congrArg Attempt.Seen.future hseen
  have heffects := congrArg Attempt.Seen.effects hseen
  have hunread := congrArg Attempt.Seen.unread hseen
  rcases eq_of_call? hstep with ⟨limit, rfl⟩ | rfl
  · refine ⟨?_, heffects, hunread⟩
    simp only [take, result_awaited, hfuture]
  · refine ⟨?_, heffects, hunread⟩
    simp only [take, result_launched, hfuture]

theorem take_effects (service : Service) (session : Session) {step : Step}
    {call : Call} {backends : Backends}
    (hstep : step.call? = some (call, backends)) :
    (take service session step).effects =
      (Dispatch.startCall service (session.circumstances backends) call
        session.store).effects := by
  rcases eq_of_call? hstep with ⟨limit, rfl⟩ | rfl <;> rfl

/-- **Every call stands alone.**  After any steps, a call whose arguments do not
pass their check leaves no trace.  Every other call asks the opt-in flag once.
If the flag answers true there is no call on the channel, and one client is
built if everything that was left out can be filled in, else none; the client is
labelled with the method that does the work.  If the flag answers false, no
client is built and no request is sent.  And whatever came before, in this
process or in another, two calls with one flag answer, one innermost context and
one behaviour of the backends end alike, with the same trace and the same
replies left over. -/
theorem calls_stand_alone (service : Service)
    (environment environment' : Environment) (override override' : Option Bool)
    (steps steps' : List Step) {step : Step} {call : Call} {backends : Backends}
    (hstep : step.call? = some (call, backends)) :
    let session := after service (initial environment override) steps
    let session' := after service (initial environment' override') steps'
    (∀ failure, call.check = .error failure →
      (take service session step).effects = []) ∧
    (∀ operation, call.check = .ok operation →
      consultations (take service session step).effects = [session.optedIn] ∧
      (session.optedIn = true →
        commands (take service session step).effects = [] ∧
        (∀ resolved, operation.resolve session.bindings = .ok resolved →
          labels (take service session step).effects = [call.worker]) ∧
        (∀ failure, operation.resolve session.bindings = .error failure →
          labels (take service session step).effects = [])) ∧
      (session.optedIn = false →
        labels (take service session step).effects = [] ∧
          requests (take service session step).effects = [])) ∧
    (session'.optedIn = session.optedIn →
      session'.bindings.current = session.bindings.current →
      (take service session' step).result = (take service session step).result ∧
        (take service session' step).effects =
          (take service session step).effects ∧
        (take service session' step).unread =
          (take service session step).unread) := by
  intro session session'
  have heffects := take_effects service session hstep
  refine ⟨fun failure hcheck => ?_, fun operation hcheck => ?_,
    fun hopted hcurrent => ?_⟩
  · rw [heffects, Dispatch.startCall, hcheck]
    rfl
  · obtain ⟨hconsulted, hadministered, htransmitted⟩ :=
      Dispatch.startCall_exclusive service (session.circumstances backends)
        session.store hcheck
    rw [heffects]
    refine ⟨hconsulted, fun hopted => ?_, htransmitted⟩
    obtain ⟨hcommands, hlabels⟩ := hadministered hopted
    refine ⟨hcommands, fun resolved hresolve => ?_, fun failure hresolve => ?_⟩
    · have hclients : Dispatch.clients session.bindings operation =
          [operation.label] := by
        rw [Dispatch.clients, hresolve]
      rw [hlabels, ← (Call.yields_of_check hcheck).label]
      exact hclients
    · have hclients : Dispatch.clients session.bindings operation = [] := by
        rw [Dispatch.clients, hresolve]
      exact hlabels.trans hclients
  · exact take_alike service
      (sourcesFirst_after service environment override steps)
      (sourcesFirst_after service environment' override' steps') hopted hcurrent hstep

/-- The hostname of a version, of which every part is named, while credentials
are missing. -/
def versionAddress : Step :=
  .call (.versionHostname ⟨.text "default", .text "v1"⟩) .null
    ⟨.error (.unworded .noCredentials), [], .pending⟩

/-- A call that was made before the opt-in answer changed, and is still held
back, leaves nothing behind. -/
theorem calls_stand_alone_after_opt_in :
    let held : Step :=
      .launch .modules ⟨.error (.unworded .noCredentials), [], .pending⟩
    let session :=
      after ⟨"shop", true⟩ (initial ⟨[]⟩ (some false)) [held, .optIn true]
    let session' := initial ⟨[]⟩ (some true)
    consultations (take ⟨"shop", true⟩ session versionAddress).effects = [true] ∧
      labels (take ⟨"shop", true⟩ session versionAddress).effects =
        ["get_version_hostname"] ∧
      commands (take ⟨"shop", true⟩ session versionAddress).effects = [] ∧
      (take ⟨"shop", true⟩ session' versionAddress).result =
        (take ⟨"shop", true⟩ session versionAddress).result := by
  intro held session session'
  obtain ⟨-, hone, hsame⟩ :=
    calls_stand_alone ⟨"shop", true⟩ ⟨[]⟩ ⟨[]⟩ (some false) (some true)
    [held, .optIn true] []
      (show versionAddress.call? = some _ from rfl)
  obtain ⟨hconsulted, hadministered, -⟩ := hone _ rfl
  obtain ⟨hcommands, hlabels, -⟩ := hadministered rfl
  exact ⟨hconsulted, hlabels _ rfl, hcommands, (hsame rfl rfl).1⟩

/-- The method for the hostname of a version or an instance builds no client of
its own name. -/
theorem hostname_labelled_by_worker :
    ¬ ∀ (service : Service) (session : Session) (call : Call)
      (limit : Value) (backends : Backends)
      (operation resolved : Operation), call.check = .ok operation →
        session.optedIn = true →
      operation.resolve session.bindings = .ok resolved →
      labels (take service session (.call call limit backends)).effects =
        [call.method] := by
  intro h
  have hlabels : ["get_version_hostname"] = ["get_hostname"] :=
    h ⟨"shop", true⟩ (initial ⟨[]⟩ (some true))
      (.hostname .null ⟨.text "default", .text "v1"⟩) .null
      ⟨.error (.unworded .noCredentials), [], .pending⟩ _ _ rfl rfl rfl
  exact absurd hlabels (by decide)

end Session
end HostedModules
