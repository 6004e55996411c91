/-
HostedModules.Proofs.Dispatch.Start — what starting a call does to the futures.

Whatever a call meets, it adds one future that its backend answers and a chain
of futures behind it, or it is refused and adds none.

* `Operation.stages` — through what the outcome of the channel reaches the
  caller
* `Attempt.Starts`, `Attempt.Refused` — the two ways an attempt can end
* `Dispatch.Reaches`, `startCall_channel` — when the channel hands a future out,
  and what is derived from it
* `startCall_cases` — every attempt is of one of the two ways
-/
import HostedModules.Dispatch
import HostedModules.Proofs.Admin.Trace
import HostedModules.Proofs.Future.Chain

namespace HostedModules

open Future

namespace Effect

/-- The message of a record that is no mere diagnostic. -/
def info? : Effect → Option String
  | .logged .info message => some message
  | _ => none

/-- The messages in a trace, those of diagnostics left out. -/
def infos (effects : List Effect) : List String := effects.filterMap info?

@[simp] theorem infos_append (a b : List Effect) :
    infos (a ++ b) = infos a ++ infos b :=
  List.filterMap_append

@[simp] theorem infos_ofEvents (events : List Event) :
    infos (ofEvents events) = messages events := by
  induction events with
  | nil => rfl
  | cons event rest ih =>
      cases event with
      | logged message => exact congrArg (message :: ·) ih
      | converted id => exact ih
      | recovered id => exact ih

theorem infos_eq_nil {effects : List Effect}
    (h : ∀ effect ∈ effects, effect.info? = none) :
    infos effects = [] := List.filterMap_eq_nil_iff.2 h

end Effect

namespace Operation

/-- The bytes that carry the operation over the channel. -/
def request (operation : Operation) : Except Failure (List UInt8) :=
  operation.checkSpelling.bind fun _ =>
    Channel.encodeRequest operation.command.fields

theorem request_eq_ok {operation : Operation} {bytes : List UInt8} :
    operation.request = .ok bytes ↔
      operation.checkSpelling = .ok () ∧
        Channel.encodeRequest operation.command.fields = .ok bytes := by
  unfold request
  cases operation.checkSpelling with
  | error failure => exact ⟨fun h => (nomatch h), fun h => (nomatch h.1)⟩
  | ok _ => exact ⟨fun h => ⟨rfl, h⟩, And.right⟩

/-- What is derived from the future that answers the operation, whichever
backend that is. -/
def leniency (operation : Operation) : List Derivation :=
  (operation.suppression?.map .suppress).toList

/-- What is derived from the future that the channel hands out. -/
def stages (operation : Operation) : List Derivation :=
  operation.command.derivation :: operation.leniency

theorem length_leniency (operation : Operation) :
    operation.leniency.length ≤ 1 := by
  unfold leniency
  cases operation.suppression? <;> simp

theorem length_stages (operation : Operation) : operation.stages.length ≤ 2 :=
  Nat.succ_le_succ operation.length_leniency

end Operation

namespace Channel

/-- The state of the future that the channel hands out. -/
def Reaction.status (reaction : Reaction) : Status :=
  match reaction.outcome? with
  | some outcome => .finished outcome
  | none => .waiting

/-- The channel takes the call. -/
def Reaction.takes : Reaction → Bool
  | .throws _ => false
  | _ => true

theorem handOut_eq (reaction : Reaction) (store : Store) :
    handOut reaction.outcome? store =
      (store.next, store.add ⟨none, reaction.status⟩) := by
  unfold handOut Reaction.status
  cases reaction.outcome? <;> rfl

end Channel

namespace Attempt

/-- The attempt added a future in this state, and the chain of these derivations
from it; it reports the end of the chain, and logs what the chain logged. -/
structure Starts (attempt : Attempt) (store : Store) (status : Status)
    (derivations : List Derivation) : Prop where
  future : attempt.future = .ok (store.next + derivations.length)
  stored : attempt.store = ((store.add ⟨none, status⟩).chain derivations).1
  infos : Effect.infos attempt.effects =
    messages ((store.add ⟨none, status⟩).chain derivations).2

/-- The attempt failed at once, asked no channel, and left all futures as they
were. -/
structure Refused (attempt : Attempt) (store : Store) : Prop where
  future : ∃ failure, attempt.future = .error failure
  source : attempt.source = none
  stored : attempt.store = store
  infos : Effect.infos attempt.effects = []

theorem Starts.follow {attempt : Attempt} {store : Store} {status : Status}
    {derivations : List Derivation}
    (h : attempt.Starts store status derivations) (derivation : Derivation) :
    (attempt.follow derivation).Starts store status
      (derivations ++ [derivation]) := by
  have hnext : attempt.store.next - 1 = store.next + derivations.length := by
    rw [h.stored, Store.next_chain, Store.next_add]; omega
  have hfollow : attempt.follow derivation =
      { attempt with
        future := .ok attempt.store.next
        store :=
          (attempt.store.derive (store.next + derivations.length)
            derivation).2.1
        effects := attempt.effects ++
          Effect.ofEvents
            (attempt.store.derive (store.next + derivations.length)
              derivation).2.2 } := by
    unfold Attempt.follow
    rw [h.future]
    rfl
  rw [hfollow]
  refine ⟨?_, ?_, ?_⟩
  · show Except.ok attempt.store.next = _
    rw [h.stored, Store.next_chain, Store.next_add, List.length_append]
    simp
    omega
  · rw [Store.chain_concat, ← h.stored, hnext]
  · show Effect.infos (attempt.effects ++ Effect.ofEvents _) = _
    rw [Store.chain_concat, ← h.stored, hnext, Effect.infos_append,
      Effect.infos_ofEvents, h.infos, messages_append]

theorem Starts.after {attempt : Attempt} {store : Store} {status : Status}
    {derivations : List Derivation}
    (h : attempt.Starts store status derivations) {effects : List Effect}
    (he : Effect.infos effects = []) :
    (attempt.after effects).Starts store status derivations :=
  ⟨h.future, h.stored, by
    show Effect.infos (effects ++ attempt.effects) = _
    rw [Effect.infos_append, he, h.infos]; rfl⟩

theorem Refused.after {attempt : Attempt} {store : Store}
    (h : attempt.Refused store) {effects : List Effect}
    (he : Effect.infos effects = []) : (attempt.after effects).Refused store :=
  ⟨h.future, h.source, h.stored, by
    show Effect.infos (effects ++ attempt.effects) = _
    rw [Effect.infos_append, he, h.infos]; rfl⟩

theorem refused_refused (failure : Failure) (store : Store)
    {effects : List Effect} (unread : List Reply)
    (he : Effect.infos effects = []) :
    (refused failure store effects unread).Refused store :=
  ⟨⟨failure, rfl⟩, rfl, rfl, he⟩

@[simp] theorem source_follow (attempt : Attempt) (derivation : Derivation) :
    (attempt.follow derivation).source = attempt.source := by
  unfold Attempt.follow
  split <;> rfl

end Attempt

namespace Dispatch

open Attempt

theorem Starts.lenient {attempt : Attempt} {store : Store} {status : Status}
    {derivations : List Derivation}
    (h : attempt.Starts store status derivations) (operation : Operation) :
    (lenient operation attempt).Starts store status
      (derivations ++ operation.leniency) := by
  unfold Dispatch.lenient Operation.leniency
  cases operation.suppression? with
  | none => simpa using h
  | some message => exact h.follow (.suppress message)

theorem Refused.lenient {attempt : Attempt} {store : Store}
    (h : attempt.Refused store) (operation : Operation) :
    (lenient operation attempt).Refused store := by
  unfold Dispatch.lenient
  cases operation.suppression? with
  | none => exact h
  | some message =>
      obtain ⟨failure, hf⟩ := h.future
      show (attempt.follow (.suppress message)).Refused store
      unfold Attempt.follow
      rw [hf]
      exact h

@[simp] theorem source_lenient (operation : Operation) (attempt : Attempt) :
    (lenient operation attempt).source = attempt.source := by
  unfold Dispatch.lenient
  split
  · exact source_follow _ _
  · rfl

/-! ## The channel -/

/-- What a call needs for the channel to hand out a future for it. -/
structure Reaches (service : Service) (circumstances : Circumstances)
    (call : Call) (operation : Operation) :
    Prop where
  check : call.check = .ok operation
  legacy : circumstances.optedIn = false
  channel : service.hasChannel = true
  encoded : ∃ request, operation.request = .ok request
  takes : circumstances.reaction.takes = true

/-- A call that the channel takes adds its future, and the stages of the
operation behind it. -/
theorem startCall_channel {service : Service} {circumstances : Circumstances}
    {call : Call} (store : Store) {operation : Operation}
    (h : Reaches service circumstances call operation) :
    (startCall service circumstances call store).Starts store
      circumstances.reaction.status operation.stages ∧
      (startCall service circumstances call store).source = some store.next := by
  obtain ⟨hcheck, hlegacy, hchannel, ⟨request, hrequest⟩, htakes⟩ := h
  obtain ⟨hspell, hencode⟩ := Operation.request_eq_ok.1 hrequest
  obtain ⟨optedIn, bindings, client, replies, reaction⟩ := circumstances
  simp only at hlegacy htakes
  subst hlegacy
  have htransmit :
      Channel.transmit operation.command request reaction store replies =
      Attempt.follow operation.command.derivation
        ⟨.ok store.next, some store.next, store.add ⟨none, reaction.status⟩,
          [Effect.called operation.command.method request], replies⟩ := by
    have heq := Channel.handOut_eq reaction store
    cases reaction with
    | throws failure => simp [Channel.Reaction.takes] at htakes
    | answers bytes => simp only [Channel.transmit, heq]
    | fails failure => simp only [Channel.transmit, heq]
    | pending => simp only [Channel.transmit, heq]
  have hstart : startCall service ⟨false, bindings, client, replies,
    reaction⟩ call store =
      Attempt.after [.consulted false, route false operation] (lenient operation
        (Attempt.after [Channel.announcement operation.command]
          (Channel.transmit operation.command request reaction store
            replies))) := by
    simp [startCall, hcheck, start, consult, begin, transmitted, hchannel,
      hspell, Channel.call, hencode]
  have hroot : Attempt.Starts ⟨.ok store.next, some store.next,
    store.add ⟨none, reaction.status⟩,
      [Effect.called operation.command.method request],
        replies⟩ store reaction.status [] :=
    ⟨rfl, rfl, rfl⟩
  rw [hstart, htransmit]
  refine ⟨((Starts.lenient (((hroot.follow _).after rfl)) operation).after rfl), ?_⟩
  show (lenient operation _).source = _
  rw [source_lenient]
  exact source_follow _ _

/-! ## All calls -/

/-- Administrative work logs diagnostics only. -/
theorem infos_work (service : Service) (client : Except Failure Client)
    (operation : Operation) (replies : List Reply) :
    Effect.infos (work service client operation ⟨replies, []⟩).2.effects = [] := by
  have hadds : Exchange.Adds (fun effect => effect.info? = none)
      (work service client operation) := by
    refine Exchange.adds_bind (Exchange.adds_emit ?_) fun _ =>
      Exchange.adds_bind (Exchange.adds_lift client) fun client =>
        Operation.administer_adds ?_ _ operation
    · intro effect hmem
      obtain rfl := List.mem_singleton.1 hmem
      rfl
    · intro verb path params body effect hmem
      rcases List.mem_cons.1 hmem with rfl | hmem
      · rfl
      · obtain rfl := List.mem_singleton.1 hmem
        rfl
  obtain ⟨added, ha, hkind⟩ := hadds ⟨replies, []⟩
  rw [ha]
  exact Effect.infos_eq_nil hkind

theorem administered_cases (service : Service) (circumstances : Circumstances)
    (operation : Operation) (store : Store) :
    (administered service circumstances operation store).source = none ∧
      ((administered service circumstances operation store).Refused store ∨
        ∃ status, (administered service circumstances operation store).Starts
          store status []) := by
  unfold administered
  cases operation.resolve circumstances.bindings with
  | error failure => exact ⟨rfl, Or.inl (refused_refused failure store _ rfl)⟩
  | ok resolved =>
      exact ⟨rfl, Or.inr ⟨_, rfl, rfl,
        infos_work service circumstances.client resolved circumstances.replies⟩⟩

theorem transmit_throws {command : Channel.Command} {request : List UInt8}
    {reaction : Channel.Reaction} {store : Store} {unread : List Reply}
    (h : reaction.takes = false) :
    (Channel.transmit command request reaction store unread).Refused store := by
  cases reaction with
  | throws failure => exact refused_refused failure store _ rfl
  | answers bytes => exact absurd h (by simp [Channel.Reaction.takes])
  | fails failure => exact absurd h (by simp [Channel.Reaction.takes])
  | pending => exact absurd h (by simp [Channel.Reaction.takes])

theorem transmitted_cases {service : Service} {circumstances : Circumstances}
    {call : Call} {operation : Operation} (store : Store)
    (hcheck : call.check = .ok operation)
    (hlegacy : circumstances.optedIn = false) :
    (transmitted service circumstances operation store).Refused store ∨
      Reaches service circumstances call operation := by
  unfold transmitted
  split
  · rename_i hchannel
    cases hspell : operation.checkSpelling with
    | error failure => exact Or.inl (refused_refused failure store _ rfl)
    | ok _ =>
        unfold Channel.call
        cases hencode : Channel.encodeRequest operation.command.fields with
        | error failure => exact Or.inl (refused_refused failure store _ rfl)
        | ok request =>
            cases htakes : circumstances.reaction.takes with
            | false => exact Or.inl ((transmit_throws htakes).after rfl)
            | true =>
                exact Or.inr
                  ⟨hcheck, hlegacy, hchannel,
                    ⟨request, Operation.request_eq_ok.2 ⟨hspell, hencode⟩⟩, htakes⟩
  · exact Or.inl (refused_refused _ store _ rfl)

/-- Every call is refused, or adds a future that a backend answers and a chain
of two at most behind it.  A future that the channel handed out is the one
added, and the call met what it takes for that. -/
theorem startCall_cases (service : Service) (circumstances : Circumstances)
    (call : Call) (store : Store) :
    (startCall service circumstances call store).Refused store ∨
      ∃ status derivations, derivations.length ≤ 2 ∧
        (startCall service circumstances call store).Starts store status
          derivations ∧
        ∀ source,
          (startCall service circumstances call store).source = some source →
          source = store.next ∧
            ∃ operation, Reaches service circumstances call operation := by
  cases hcheck : call.check with
  | error failure =>
      left
      unfold startCall
      rw [hcheck]
      exact refused_refused failure store _ rfl
  | ok operation =>
      have hstart : startCall service circumstances call store =
          (lenient operation
            (begin service circumstances circumstances.optedIn operation
              store)).after
            [.consulted circumstances.optedIn,
              route circumstances.optedIn operation] := by
        unfold startCall
        rw [hcheck]
        rfl
      cases hopted : circumstances.optedIn with
      | true =>
          rw [hopted] at hstart
          rw [hstart, begin, if_pos rfl]
          obtain ⟨hsource, hrefused | ⟨status, hstarts⟩⟩ :=
            administered_cases service circumstances operation store
          · exact Or.inl ((Refused.lenient hrefused operation).after rfl)
          · refine Or.inr ⟨status, _,
              Nat.le_succ_of_le operation.length_leniency,
              (Starts.lenient hstarts operation).after rfl, fun source h => ?_⟩
            change (lenient operation _).source = _ at h
            rw [source_lenient, hsource] at h
            exact absurd h (by simp)
      | false =>
          rcases transmitted_cases store hcheck hopted with hrefused | hreaches
          · left
            rw [hopted] at hstart
            rw [hstart, begin, if_neg Bool.false_ne_true]
            exact (Refused.lenient hrefused operation).after rfl
          · right
            obtain ⟨hstarts, hsource⟩ := startCall_channel store hreaches
            refine ⟨_, _, operation.length_stages, hstarts, fun source h => ?_⟩
            rw [hsource] at h
            exact ⟨(Option.some.inj h).symm, operation, hreaches⟩

/-- A call for which the channel handed a future out met what it takes for
that. -/
theorem reaches_of_source {service : Service} {circumstances : Circumstances}
    {call : Call} {store : Store} {source : Nat}
    (h : (startCall service circumstances call store).source = some source) :
    source = store.next ∧ ∃ operation,
      Reaches service circumstances call operation := by
  rcases startCall_cases service circumstances call store with hrefused | ⟨_, _,
    -, -, hsource⟩
  · rw [hrefused.source] at h
    exact absurd h (by simp)
  · exact hsource source h

end Dispatch
end HostedModules
