/-
HostedModules.Proofs.Dispatch.Refused — why a call cannot be started.

* `Dispatch.Refuses` — the reasons: the arguments, what was left out, the
  channel, the request
* `startCall_error_iff` — a call is refused for one of them, and for no other
-/
import HostedModules.Proofs.Dispatch.Start

namespace HostedModules

open Future

namespace Dispatch

/-- Why a call cannot be started. -/
inductive Refuses (service : Service) (circumstances : Circumstances)
    (call : Call) : Failure → Prop
  | argument {failure : Failure} (hcheck : call.check = .error failure) :
      Refuses service circumstances call failure
  /-- What was left out cannot be filled in. -/
  | context {operation : Operation} {failure : Failure}
      (hcheck : call.check = .ok operation)
      (hopted : circumstances.optedIn = true)
      (hresolve : operation.resolve circumstances.bindings = .error failure) :
      Refuses service circumstances call failure
  | channel {operation : Operation} (hcheck : call.check = .ok operation)
      (hlegacy : circumstances.optedIn = false)
        (hchannel : service.hasChannel = false) :
      Refuses service circumstances call noChannel
  /-- The request cannot be put into bytes. -/
  | request {operation : Operation} {failure : Failure}
      (hcheck : call.check = .ok operation)
      (hlegacy : circumstances.optedIn = false)
        (hchannel : service.hasChannel = true)
      (hrequest : operation.request = .error failure) :
        Refuses service circumstances call failure
  /-- The channel does not take the call. -/
  | thrown {operation : Operation} {request : List UInt8} {failure : Failure}
      (hcheck : call.check = .ok operation)
        (hlegacy : circumstances.optedIn = false)
      (hchannel : service.hasChannel = true)
        (hrequest : operation.request = .ok request)
      (hthrows : circumstances.reaction = .throws failure) :
      Refuses service circumstances call failure

theorem follow_error_iff {attempt : Attempt} {derivation : Derivation}
    {failure : Failure} :
    (attempt.follow derivation).future = .error failure ↔
      attempt.future = .error failure := by
  unfold Attempt.follow
  cases hfuture : attempt.future with
  | error cause => simp only [hfuture]
  | ok id => exact ⟨fun h => (nomatch h), fun h => (nomatch h)⟩

theorem transmit_error_iff {command : Channel.Command} {request : List UInt8}
    {reaction : Channel.Reaction} {store : Store} {unread : List Reply}
    {failure : Failure} :
    (Channel.transmit command request reaction store unread).future =
      .error failure ↔
      reaction = .throws failure := by
  unfold Channel.transmit
  cases reaction with
  | throws cause =>
      exact ⟨fun h => congrArg _ (Except.error.inj h),
        fun h => congrArg _ (Channel.Reaction.throws.inj h)⟩
  | answers bytes =>
      exact ⟨fun h => (nomatch follow_error_iff.1 h), fun h => (nomatch h)⟩
  | fails cause =>
      exact ⟨fun h => (nomatch follow_error_iff.1 h), fun h => (nomatch h)⟩
  | pending =>
      exact ⟨fun h => (nomatch follow_error_iff.1 h), fun h => (nomatch h)⟩

theorem administered_error_iff {service : Service}
    {circumstances : Circumstances} {operation : Operation} {store : Store}
    {failure : Failure} :
    (administered service circumstances operation store).future =
      .error failure ↔
      operation.resolve circumstances.bindings = .error failure := by
  unfold administered
  cases operation.resolve circumstances.bindings with
  | error cause =>
      exact ⟨fun h => congrArg _ (Except.error.inj h),
        fun h => congrArg _ (Except.error.inj h)⟩
  | ok resolved => exact ⟨fun h => (nomatch h), fun h => (nomatch h)⟩

theorem transmitted_error_iff {service : Service}
    {circumstances : Circumstances} {operation : Operation} {store : Store}
    {failure : Failure} (hchannel : service.hasChannel = true) :
    (transmitted service circumstances operation store).future =
      .error failure ↔
      operation.request = .error failure ∨
        (∃ request, operation.request = .ok request) ∧
          circumstances.reaction = .throws failure := by
  unfold transmitted Operation.request
  rw [if_pos hchannel]
  cases operation.checkSpelling with
  | error cause =>
      constructor
      · intro h
        exact Or.inl (congrArg _ (Except.error.inj h))
      · rintro (h | ⟨⟨request, h⟩, -⟩)
        · exact congrArg _ (Except.error.inj h)
        · exact nomatch h
  | ok _ =>
      unfold Channel.call Except.bind
      cases Channel.encodeRequest operation.command.fields with
      | error cause =>
          constructor
          · intro h
            exact Or.inl (congrArg _ (Except.error.inj h))
          · rintro (h | ⟨⟨request, h⟩, -⟩)
            · exact congrArg _ (Except.error.inj h)
            · exact nomatch h
      | ok request =>
          refine Iff.trans transmit_error_iff
            ⟨fun h => Or.inr ⟨⟨request, rfl⟩, h⟩, ?_⟩
          rintro (h | ⟨-, h⟩)
          · exact nomatch h
          · exact h

theorem start_error_iff {service : Service} {circumstances : Circumstances}
    {operation : Operation} {store : Store} {failure : Failure} :
    (start service circumstances operation store).future = .error failure ↔
      (begin service circumstances circumstances.optedIn operation
        store).future = .error failure := by
  show (lenient operation _).future = _ ↔ _
  unfold lenient
  cases operation.suppression? with
  | none => exact Iff.rfl
  | some message => exact follow_error_iff

/-- A call cannot be started for one of these reasons, and for no other. -/
theorem startCall_error_iff {service : Service} {circumstances : Circumstances}
    {call : Call} {store : Store} {failure : Failure} :
    (startCall service circumstances call store).future = .error failure ↔
      Refuses service circumstances call failure := by
  unfold startCall
  constructor
  · intro h
    cases hcheck : call.check with
    | error cause =>
        rw [hcheck] at h
        obtain rfl := Except.error.inj h
        exact .argument hcheck
    | ok operation =>
        simp only [hcheck, start_error_iff] at h
        cases hopted : circumstances.optedIn with
        | true =>
            rw [hopted, begin, if_pos rfl, administered_error_iff] at h
            exact .context hcheck hopted h
        | false =>
            rw [hopted, begin, if_neg Bool.false_ne_true] at h
            cases hchannel : service.hasChannel with
            | true =>
                rcases (transmitted_error_iff hchannel).1
                  h with hrequest | ⟨⟨request, hrequest⟩, hthrows⟩
                · exact .request hcheck hopted hchannel hrequest
                · exact .thrown hcheck hopted hchannel hrequest hthrows
            | false =>
                rw [transmitted,
                  if_neg (by rw [hchannel]; exact Bool.false_ne_true)] at h
                obtain rfl := Except.error.inj h
                exact .channel hcheck hopted hchannel
  · intro h
    cases h with
    | argument hcheck => rw [hcheck]; rfl
    | context hcheck hopted hresolve =>
        simp only [hcheck, start_error_iff, hopted, begin, if_true,
          administered_error_iff, hresolve]
    | channel hcheck hlegacy hchannel =>
        simp only [hcheck, start_error_iff, hlegacy, begin, Bool.false_eq_true,
          if_false, transmitted, hchannel]
        rfl
    | request hcheck hlegacy hchannel hrequest =>
        simp only [hcheck, start_error_iff, hlegacy, begin, Bool.false_eq_true, if_false]
        exact (transmitted_error_iff hchannel).2 (Or.inl hrequest)
    | thrown hcheck hlegacy hchannel hrequest hthrows =>
        simp only [hcheck, start_error_iff, hlegacy, begin, Bool.false_eq_true, if_false]
        exact (transmitted_error_iff hchannel).2
          (Or.inr ⟨⟨_, hrequest⟩, hthrows⟩)

end Dispatch
end HostedModules
