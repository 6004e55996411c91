/-
HostedModules.Proofs.Session.Updates — what a process sends, over all of its
steps.

* `Session.trace` — all that some steps leave behind
* `Call.change?` — the field of a version that a call asks to be changed, and
  what it is to become
* `Call.Plain` — the calls in question: names are texts, and counts can be
  written
* `take_requests` — a step reads, or makes the one change that its call asks for
* `changes_one_field` — the requests of a run, and what each call sends on
  either backend
-/
import HostedModules.Proofs.Dispatch.Sent
import HostedModules.Proofs.Operation.Documented
import HostedModules.Proofs.Session.StandAlone

namespace HostedModules

open Effect

namespace Call

/-- The field of a version that a call asks to be changed, by the keys that lead
to it, and what it is to become. -/
def change? : Call → Option (List String × Value)
  | .setInstances count _ => some (["manualScaling", "instances"], count)
  | .start _ => some (["servingStatus"], .text "SERVING")
  | .stop _ => some (["servingStatus"], .text "STOPPED")
  | _ => none

/-- The names in a call are texts, unless they are left out, and an instance
count is an integer that can be written. -/
structure Plain (call : Call) : Prop where
  moduleName : Name call.target.moduleName
  version : Name call.target.version
  count : ∀ count target, call = .setInstances count target →
    ∃ n : Int, count = .int n ∧ n.natAbs < Numeral.firstOversized

/-- A plain call for a change passes its check, and what it asks for can be
written. -/
theorem Plain.check {call : Call} (h : call.Plain) {path : List String}
    {v : Value} (hchange : call.change? = some (path, v)) :
    (∃ operation, call.check = .ok operation) ∧ v.writable = true := by
  cases call with
  | setInstances count target =>
      obtain ⟨n, rfl, hn⟩ := h.count count target rfl
      obtain ⟨-, rfl⟩ := Prod.mk.inj (Option.some.inj hchange)
      exact ⟨⟨_, rfl⟩, by
        simpa only [Value.writable, decide_eq_true_eq] using hn⟩
  | start target =>
      obtain ⟨-, rfl⟩ := Prod.mk.inj (Option.some.inj hchange)
      exact ⟨⟨_, rfl⟩, rfl⟩
  | stop target =>
      obtain ⟨-, rfl⟩ := Prod.mk.inj (Option.some.inj hchange)
      exact ⟨⟨_, rfl⟩, rfl⟩
  | _ => cases hchange

/-- What is filled in for a name is a text. -/
theorem text_of_nameOr {given : Value} {current : Except Failure String}
    {name : Value} (hname : Name given)
    (h : Target.nameOr given current = .ok name) : ∃ s, name = .text s := by
  cases given with
  | null =>
      cases current with
      | error failure => exact nomatch h
      | ok s => exact ⟨s, (Except.ok.inj h).symm⟩
  | text s => exact ⟨s, (Except.ok.inj h).symm⟩
  | _ => exact hname.elim

/-- Once everything is filled in, the module and the version of a target are
texts. -/
theorem texts_of_resolve {target resolved : Target} {bindings : Bindings}
    (hmodule : Name target.moduleName) (hversion : Name target.version)
    (h : target.resolve bindings = .ok resolved) :
    ∃ moduleName version, resolved = ⟨.text moduleName, .text version⟩ := by
  unfold Target.resolve at h
  cases hfirst : Target.resolveModule bindings target.moduleName with
  | error failure => rw [hfirst] at h; exact nomatch h
  | ok moduleName =>
      cases hsecond : Target.nameOr target.version bindings.currentVersion with
      | error failure => rw [hfirst, hsecond] at h; exact nomatch h
      | ok version =>
          rw [hfirst, hsecond] at h
          obtain rfl := Except.ok.inj h
          obtain ⟨m, rfl⟩ := text_of_nameOr hmodule hfirst
          obtain ⟨v, rfl⟩ := text_of_nameOr hversion hsecond
          exact ⟨m, v, rfl⟩

theorem Plain.resolve {call : Call} (h : call.Plain) {bindings : Bindings}
    {target : Target} (htarget : call.target.resolve bindings = .ok target) :
    ∃ moduleName version, target = ⟨.text moduleName, .text version⟩ :=
  texts_of_resolve h.moduleName h.version htarget

end Call

namespace Session

/-- All that some steps leave behind. -/
def trace (service : Service) (session : Session) : List Step → List Effect
  | [] => []
  | step :: rest =>
    (take service session step).effects ++
      trace service (take service session step).session rest

variable (service : Service) (session : Session) {step : Step} {call : Call}
    {backends : Backends}

/-- What a step sends is sent by the backend that its call uses. -/
theorem take_sent (hstep : step.call? = some (call, backends))
    {operation : Operation} (hcheck : call.check = .ok operation) :
    requests (take service session step).effects =
      requests (Dispatch.begin service
        (session.circumstances backends) session.optedIn operation
          session.store).effects ∧
      commands (take service session step).effects =
        commands (Dispatch.begin service
        (session.circumstances backends) session.optedIn operation
          session.store).effects := by
  rw [take_effects service session hstep]
  exact Dispatch.startCall_sent service (session.circumstances backends)
    session.store hcheck

/-- A call whose arguments do not pass their check sends nothing. -/
theorem take_refused (hstep : step.call? = some (call, backends))
    {failure : Failure} (hcheck : call.check = .error failure) :
    (take service session step).effects = [] := by
  rw [take_effects service session hstep, Dispatch.startCall, hcheck]
  rfl

/-- A call on the legacy channel sends no request. -/
theorem take_requests_legacy (hstep : step.call? = some (call, backends))
    (hopted : session.optedIn = false) :
    requests (take service session step).effects = [] := by
  cases hcheck : call.check with
  | error failure => rw [take_refused service session hstep hcheck]; rfl
  | ok operation =>
      rw [take_effects service session hstep]
      exact ((Dispatch.startCall_exclusive service
        (session.circumstances backends) session.store
        hcheck).transmitted hopted).2

/-- A call on the administrative service makes no call on the channel. -/
theorem take_commands_administered (hstep : step.call? = some (call, backends))
    (hopted : session.optedIn = true) :
    commands (take service session step).effects = [] := by
  cases hcheck : call.check with
  | error failure => rw [take_refused service session hstep hcheck]; rfl
  | ok operation =>
      rw [take_effects service session hstep]
      exact ((Dispatch.startCall_exclusive service
        (session.circumstances backends) session.store
        hcheck).administered hopted).1

/-- On the legacy channel, a call whose arguments pass their check is one call
of its own, if there is a channel and the request can be put into bytes, and
otherwise none. -/
theorem take_commands (hstep : step.call? = some (call, backends))
    {operation : Operation} (hcheck : call.check = .ok operation)
    (hopted : session.optedIn = false) :
    commands (take service session step).effects =
      match service.hasChannel, operation.request with
      | true, .ok bytes => [(operation.command.method, bytes)]
      | _, _ => [] := by
  rw [(take_sent service session hstep hcheck).2, hopted, Dispatch.begin,
    if_neg Bool.false_ne_true]
  exact Dispatch.transmitted_commands service _ session.store operation

end Session
end HostedModules
