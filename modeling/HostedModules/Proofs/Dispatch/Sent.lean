/-
HostedModules.Proofs.Dispatch.Sent — what a call sends, on either backend.

On the administrative service, operations that change nothing only read, and any
other sends one request for its one change.  The legacy channel is called once
or not at all.

* `Operation.administer_change` — an operation that changes something sends one
  request
* `startCall_sent` — a call sends what its backend sends
* `administered_reads`, `administered_changes` — the requests of an operation
* `transmitted_commands` — the calls on the channel that an operation makes
-/
import HostedModules.Proofs.Admin.Update
import HostedModules.Proofs.Dispatch.Exclusive

namespace HostedModules

open Exchange

namespace Effect

theorem commands_append (before later : List Effect) :
    commands (before ++ later) = commands before ++ commands later :=
      List.filterMap_append

/-- Messages send nothing. -/
theorem sent_of_logged {effects : List Effect}
    (h : ∀ effect ∈ effects, ∃ message, effect = .logged .info message) :
    requests effects = [] ∧ commands effects = [] := by
  refine ⟨List.filterMap_eq_nil_iff.2 ?_, List.filterMap_eq_nil_iff.2 ?_⟩
  all_goals
    intro effect hmem
    obtain ⟨message, rfl⟩ := h effect hmem
    rfl

end Effect

open Effect

/-! ## Operations -/

namespace Operation

/-- An operation that changes something, on a version of which every part is
named, sends one request for it. -/
theorem administer_change {operation : Operation} {path : List String}
    {v : Value} {moduleName version : String}
    (hchange : operation.change? = some (path, v))
    (htarget : operation.target = ⟨.text moduleName, .text version⟩)
    (hwritable : v.writable = true) (client : Client) (project : String) :
    ∃ request : Request,
      request.Changes client project moduleName version path v ∧
      Sends request (operation.administer client (.text project)) := by
  cases operation with
  | setInstances count target =>
      obtain rfl : target = ⟨.text moduleName, .text version⟩ := htarget
      obtain ⟨rfl, rfl⟩ := Prod.mk.inj (Option.some.inj hchange)
      obtain ⟨request, hrequest, hsends⟩ :=
        Admin.setInstances_sends client project moduleName version hwritable
      exact ⟨request, hrequest, hsends.map _⟩
  | start target =>
      obtain rfl : target = ⟨.text moduleName, .text version⟩ := htarget
      obtain ⟨rfl, rfl⟩ := Prod.mk.inj (Option.some.inj hchange)
      obtain ⟨request, hrequest, hsends⟩ :=
        Admin.setServing_sends client project moduleName version .serving
      exact ⟨request, hrequest, hsends.map _⟩
  | stop target =>
      obtain rfl : target = ⟨.text moduleName, .text version⟩ := htarget
      obtain ⟨rfl, rfl⟩ := Prod.mk.inj (Option.some.inj hchange)
      obtain ⟨request, hrequest, hsends⟩ :=
        Admin.setServing_sends client project moduleName version .stopped
      exact ⟨request, hrequest, hsends.map _⟩
  | _ => exact nomatch hchange

/-- Filling in what was left out changes neither the field that is changed nor
what it becomes. -/
theorem change?_resolve {operation resolved : Operation} {bindings : Bindings}
    (h : operation.resolve bindings = .ok resolved) :
    resolved.change? = operation.change? := by
  cases operation with
  | modules =>
      obtain rfl := Except.ok.inj h
      rfl
  | _ =>
      obtain ⟨a, -, rfl⟩ := Failure.map_eq_ok.1 h
      rfl

/-- An operation that changes something fills in its whole target. -/
theorem resolve_of_change {operation : Operation} {path : List String}
    {v : Value} (hchange : operation.change? = some (path, v))
    (bindings : Bindings) :
    ∃ make : Target → Operation, (∀ target, (make target).target = target) ∧
      operation.resolve bindings =
        (operation.target.resolve bindings).map make := by
  cases operation with
  | setInstances count target => exact ⟨.setInstances count, fun _ => rfl, rfl⟩
  | start target => exact ⟨.start, fun _ => rfl, rfl⟩
  | stop target => exact ⟨.stop, fun _ => rfl, rfl⟩
  | _ => exact nomatch hchange

end Operation

/-! ## Calls -/

namespace Dispatch

variable (service : Service) (circumstances : Circumstances) (store : Store)

/-- A call whose arguments pass their check sends what the backend sends. -/
theorem startCall_sent {call : Call} {operation : Operation}
    (h : call.check = .ok operation) :
    requests (startCall service circumstances call store).effects =
        requests (begin service circumstances circumstances.optedIn operation
          store).effects ∧
      commands (startCall service circumstances call store).effects =
        commands (begin service circumstances circumstances.optedIn operation
          store).effects := by
  obtain ⟨logs, hlogs, hinfo⟩ :=
    lenient_effects operation
      (begin service circumstances circumstances.optedIn operation store)
  have heffects : (startCall service circumstances call store).effects =
      .consulted circumstances.optedIn ::
        route circumstances.optedIn operation ::
        ((begin service circumstances circumstances.optedIn operation
          store).effects ++ logs) := by
    rw [← hlogs, startCall, h]
    rfl
  obtain ⟨hrequests, hcommands⟩ := sent_of_logged hinfo
  rw [heffects]
  constructor
  · show requests (_ ++ logs) = _
    rw [requests_append, hrequests, List.append_nil]
  · show commands (_ ++ logs) = _
    rw [commands_append, hcommands, List.append_nil]

/-- What an operation leaves behind is left by the worker that carries it
out. -/
theorem administered_eq {operation resolved : Operation}
    (h : operation.resolve circumstances.bindings = .ok resolved) :
    (administered service circumstances operation store).effects =
      (work service circumstances.client resolved ⟨circumstances.replies,
        []⟩).2.effects := by
  unfold administered
  rw [h]
  rfl

/-- An operation that changes something sends one request for it, once
everything that was left out is filled in and there is a client. -/
theorem administered_changes {operation : Operation} {path : List String}
    {v : Value} {client : Client} {moduleName version : String}
    (hchange : operation.change? = some (path, v))
    (htarget : operation.target.resolve circumstances.bindings =
      .ok ⟨.text moduleName, .text version⟩)
    (hwritable : v.writable = true)
    (hclient : circumstances.client = .ok client) :
    ∃ request : Request,
      request.Changes client service.project moduleName version path v ∧
      requests (administered service circumstances operation store).effects =
        [request] := by
  obtain ⟨make, hmake, hresolve⟩ :=
    Operation.resolve_of_change hchange circumstances.bindings
  rw [htarget] at hresolve
  have hresolved : (make ⟨.text moduleName, .text version⟩).change? =
      some (path, v) :=
    (Operation.change?_resolve hresolve).trans hchange
  obtain ⟨request, hrequest, hsends⟩ :=
    Operation.administer_change hresolved
      (hmake _) hwritable client service.project
  refine ⟨request, hrequest, ?_⟩
  rw [administered_eq service circumstances store hresolve, hclient]
  exact hsends ⟨circumstances.replies,
    [.labelled (make ⟨.text moduleName, .text version⟩).label]⟩

/-- If something cannot be filled in, or there is no client, nothing is sent. -/
theorem administered_nothing {operation : Operation} {failure : Failure}
    (h : operation.resolve circumstances.bindings = .error failure ∨
      circumstances.client = .error failure) :
    requests (administered service circumstances operation store).effects = [] := by
  cases hresolve : operation.resolve circumstances.bindings with
  | error other =>
      unfold administered
      rw [hresolve]
      rfl
  | ok resolved =>
      have hclient := h.resolve_left (by rw [hresolve]; exact nofun)
      rw [administered_eq service circumstances store hresolve, hclient]
      rfl

/-- However the channel reacts, a request is handed to it once. -/
theorem transmit_commands (command : Channel.Command) (request : List UInt8)
    (reaction : Channel.Reaction) (unread : List Reply) :
    commands (Channel.transmit command request reaction store unread).effects =
      [(command.method, request)] := by
  have hfollow : ∀ store' : Store,
    commands (Attempt.follow command.derivation ⟨.ok store.next,
    some store.next,
      store', [.called command.method request], unread⟩).effects =
        [(command.method, request)] := by
    intro store'
    obtain ⟨logs, hlogs, hinfo⟩ :=
      follow_effects ⟨.ok store.next, some store.next, store',
      [.called command.method request], unread⟩ command.derivation
    rw [hlogs, commands_append, (sent_of_logged hinfo).2, List.append_nil]
    rfl
  cases reaction with
  | throws failure => rfl
  | answers bytes => exact hfollow _
  | fails failure => exact hfollow _
  | pending => exact hfollow _

/-- The channel is called once, if there is one and the request can be put into
bytes, and otherwise not at all. -/
theorem transmitted_commands (operation : Operation) :
    commands (transmitted service circumstances operation store).effects =
      match service.hasChannel, operation.request with
      | true, .ok bytes => [(operation.command.method, bytes)]
      | _, _ => [] := by
  unfold transmitted Operation.request
  cases service.hasChannel with
  | false => rfl
  | true =>
      cases operation.checkSpelling with
      | error failure => rfl
      | ok _ =>
          simp only [if_true, Except.bind, Channel.call]
          cases Channel.encodeRequest operation.command.fields with
          | error failure => rfl
          | ok bytes => exact transmit_commands store _ _ _ _

end Dispatch
end HostedModules
