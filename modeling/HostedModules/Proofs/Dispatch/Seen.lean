/-
HostedModules.Proofs.Dispatch.Seen — what a caller gets to see of a call.

The number of the future of a call counts the futures that were made before it.
Apart from that, a call made in one store is seen as the same call made in
another.

* `Attempt.Seen`, `Attempt.seen` — an attempt with its future told by its
  outcome
* `alike_startCall` — what is seen of a call does not depend on the futures made
  before
* `startCall_rebound`, `startCall_bindings` — what the bound contexts matter for
-/
import HostedModules.Proofs.Dispatch.Start

namespace HostedModules

open Future

namespace Store

/-- What is derived from a future follows it at once, and logs what follows from
its outcome. -/
theorem derive_seen {store : Store} (h : store.SourcesFirst) {source : Nat}
    (hlt : source < store.next) (derivation : Derivation) :
    (store.derive source derivation).2.1.outcome? store.next =
        (store.outcome? source).map derivation.reference ∧
      messages (store.derive source derivation).2.2 =
        ((store.outcome? source).map derivation.messages).getD [] := by
  have hadd := h.addDerived hlt derivation .waiting
  have hdue := due?_add_self derivation hlt
  unfold derive
  cases hs : store.outcome? source with
  | none =>
      rw [settle_add_waiting hlt hs]
      exact ⟨outcome?_add_self store _, rfl⟩
  | some outcome =>
      obtain ⟨⟨ended, events⟩, hrun⟩ :
          ∃ result, derivation.run store.next outcome = result :=
        ⟨_, rfl⟩
      have hended : ended = derivation.reference outcome := by
        rw [← derivation.run_fst store.next, hrun]
      have hevents : messages events = derivation.messages outcome := by
        rw [← derivation.messages_run store.next, hrun]
      have hopen : (store.add ⟨some (source, derivation), .waiting⟩).isOpen
          store.next = true :=
        isOpen_iff.2 ⟨_, by rw [cell?_add, if_pos rfl], rfl⟩
      rw [hs, Option.map_some, hrun] at hdue
      rw [settle_due [] hdue hopen, (fits_newest hadd).upcoming, tasks,
        hadd.dependants_newest (next_add _ _), List.map_nil, List.append_nil,
        settle_nil]
      refine ⟨?_, ?_⟩
      · rw [outcome?_mark_self _ (by rw [next_add]; exact Nat.lt_succ_self _),
          hended]
        rfl
      · rw [List.append_nil, hevents]
        rfl

end Store

/-- The messages of events are all that they leave in a trace. -/
theorem Effect.ofEvents_eq (events : List Event) :
    Effect.ofEvents events = (messages events).map (.logged .info) := by
  induction events with
  | nil => rfl
  | cons event rest ih =>
      cases event with
      | logged message => exact congrArg (Effect.logged .info message :: ·) ih
      | converted id => exact ih
      | recovered id => exact ih

namespace Operation

/-- What is filled in comes from the innermost context alone. -/
theorem resolve_congr {bindings bindings' : Bindings}
    (h : bindings'.current = bindings.current) (operation : Operation) :
    operation.resolve bindings' = operation.resolve bindings := by
  have hmodule : bindings'.currentModule = bindings.currentModule :=
    congrArg (Except.map _) h
  have hversion : bindings'.currentVersion = bindings.currentVersion :=
    congrArg (Except.map _) h
  have htarget : ∀ target : Target,
      target.resolve bindings' = target.resolve bindings := by
    intro target
    simp only [Target.resolve, Target.resolveModule, hmodule, hversion]
  cases operation <;>
    simp only [resolve, Target.resolveModule, htarget, hmodule]

end Operation

namespace Attempt

/-- What a caller gets to see of an attempt. -/
structure Seen where
  /-- Why the call could not be started, or the outcome of its future if that
  has ended. -/
  future : Except Failure (Option Outcome)
  effects : List Effect
  unread : List Reply

/-- The attempt with its future told by its outcome. -/
def seen (attempt : Attempt) : Seen :=
  ⟨attempt.future.map attempt.store.outcome?, attempt.effects, attempt.unread⟩

/-- The future of an attempt is one of its store, and there every derived future
is newer than its source. -/
structure Sound (attempt : Attempt) : Prop where
  sourcesFirst : attempt.store.SourcesFirst
  made : ∀ id, attempt.future = .ok id → id < attempt.store.next

/-- Two attempts that are seen alike. -/
structure Alike (attempt attempt' : Attempt) : Prop where
  seen : attempt'.seen = attempt.seen
  sound : attempt.Sound
  sound' : attempt'.Sound

theorem alike_refused {store store' : Store} (h : store.SourcesFirst)
    (h' : store'.SourcesFirst) (failure : Failure) (effects : List Effect)
    (unread : List Reply) :
    Alike (refused failure store effects unread)
      (refused failure store' effects unread) :=
  ⟨rfl, ⟨h, fun _ hid => nomatch hid⟩, ⟨h', fun _ hid => nomatch hid⟩⟩

variable {attempt attempt' : Attempt}

theorem Alike.after (h : Alike attempt attempt') (effects : List Effect) :
    Alike (attempt.after effects) (attempt'.after effects) := by
  refine ⟨?_, ⟨h.sound.sourcesFirst, h.sound.made⟩,
    ⟨h.sound'.sourcesFirst, h.sound'.made⟩⟩
  have heffects : attempt'.effects = attempt.effects :=
    congrArg Seen.effects h.seen
  have hfuture := congrArg Seen.future h.seen
  have hunread := congrArg Seen.unread h.seen
  simp only [Attempt.seen, Attempt.after, Seen.mk.injEq] at hfuture hunread ⊢
  exact ⟨hfuture, by rw [heffects], hunread⟩

theorem Sound.follow (h : attempt.Sound) (derivation : Derivation) :
    (attempt.follow derivation).Sound := by
  unfold Attempt.follow
  cases hfuture : attempt.future with
  | error failure => exact h
  | ok id =>
      refine ⟨h.sourcesFirst.derive (h.made id hfuture) derivation,
        fun derived hderived => ?_⟩
      obtain rfl := Except.ok.inj hderived
      show attempt.store.next < (attempt.store.derive id derivation).2.1.next
      simp [Store.derive]

/-- What is seen of an attempt whose future is derived further. -/
def Seen.follow (derivation : Derivation) (seen : Seen) : Seen :=
  match seen.future with
  | .error _ => seen
  | .ok outcome =>
    ⟨.ok (outcome.map derivation.reference),
      seen.effects ++ ((outcome.map derivation.messages).getD []).map
        (.logged .info), seen.unread⟩

theorem seen_follow (h : attempt.Sound) (derivation : Derivation) :
    (attempt.follow derivation).seen = attempt.seen.follow derivation := by
  unfold Attempt.follow Seen.follow Attempt.seen
  cases hfuture : attempt.future with
  | error failure => simp only [Except.map, hfuture]
  | ok id =>
      obtain ⟨houtcome, hmessages⟩ :=
        Store.derive_seen h.sourcesFirst (h.made id hfuture) derivation
      simp only [Except.map, Effect.ofEvents_eq]
      rw [← houtcome, ← hmessages]
      rfl

theorem Alike.follow (h : Alike attempt attempt') (derivation : Derivation) :
    Alike (attempt.follow derivation) (attempt'.follow derivation) := by
  refine ⟨?_, h.sound.follow derivation, h.sound'.follow derivation⟩
  rw [seen_follow h.sound, seen_follow h.sound', h.seen]

/-- A new future that is derived from none is seen by the state that it is
given. -/
theorem alike_add {store store' : Store} (h : store.SourcesFirst)
    (h' : store'.SourcesFirst) (status : Status) (source source' : Option Nat)
    (effects : List Effect) (unread : List Reply) :
    Alike ⟨.ok store.next, source, store.add ⟨none, status⟩, effects, unread⟩
      ⟨.ok store'.next, source', store'.add ⟨none, status⟩, effects, unread⟩ := by
  have hsound : ∀ {store : Store} {source : Option Nat}, store.SourcesFirst →
      Sound ⟨.ok store.next, source, store.add ⟨none, status⟩, effects,
        unread⟩ := by
    intro store source hfirst
    refine ⟨hfirst.addRoot status, fun id hid => ?_⟩
    obtain rfl := Except.ok.inj hid
    show store.next < (store.add _).next
    rw [Store.next_add]
    omega
  refine ⟨?_, hsound h, hsound h'⟩
  simp only [Attempt.seen, Except.map, Store.outcome?_add_self]

end Attempt

/-! ## Calls -/

namespace Dispatch

open Attempt

variable {store store' : Store}

theorem alike_lenient {attempt attempt' : Attempt} (h : Alike attempt attempt')
    (operation : Operation) :
    Alike (lenient operation attempt) (lenient operation attempt') := by
  unfold lenient
  cases operation.suppression? with
  | none => exact h
  | some message => exact h.follow _

theorem alike_administered (h : store.SourcesFirst) (h' : store'.SourcesFirst)
    (service : Service) (circumstances : Circumstances)
    (operation : Operation) :
    Alike (administered service circumstances operation store)
      (administered service circumstances operation store') := by
  unfold administered
  cases operation.resolve circumstances.bindings with
  | error failure => exact alike_refused h h' failure _ _
  | ok resolved => exact alike_add h h' _ _ _ _ _

theorem alike_transmit (h : store.SourcesFirst) (h' : store'.SourcesFirst)
    (command : Channel.Command) (request : List UInt8)
    (reaction : Channel.Reaction) (unread : List Reply) :
    Alike (Channel.transmit command request reaction store unread)
      (Channel.transmit command request reaction store' unread) := by
  have hhandOut :=
    (alike_add h h' reaction.status (some store.next) (some store'.next)
    [.called command.method request] unread).follow command.derivation
  have heq := Channel.handOut_eq reaction store
  have heq' := Channel.handOut_eq reaction store'
  unfold Channel.transmit
  cases reaction with
  | throws failure => exact alike_refused h h' failure _ _
  | answers bytes => simp only [heq, heq']; exact hhandOut
  | fails failure => simp only [heq, heq']; exact hhandOut
  | pending => simp only [heq, heq']; exact hhandOut

theorem alike_transmitted (h : store.SourcesFirst) (h' : store'.SourcesFirst)
    (service : Service) (circumstances : Circumstances)
    (operation : Operation) :
    Alike (transmitted service circumstances operation store)
      (transmitted service circumstances operation store') := by
  unfold transmitted
  split
  · split
    · exact alike_refused h h' _ _ _
    · unfold Channel.call
      split
      · exact alike_refused h h' _ _ _
      · exact (alike_transmit h h' _ _ _ _).after _
  · exact alike_refused h h' _ _ _

/-- Calls that are made in the same circumstances are seen alike, whatever
futures there are already. -/
theorem alike_startCall (h : store.SourcesFirst) (h' : store'.SourcesFirst)
    (service : Service) (circumstances : Circumstances) (call : Call) :
    Alike (startCall service circumstances call store)
      (startCall service circumstances call store') := by
  unfold startCall
  cases call.check with
  | error failure => exact alike_refused h h' failure _ _
  | ok operation =>
      refine (alike_lenient ?_ operation).after _
      unfold begin
      split
      · exact alike_administered h h' service circumstances operation
      · exact alike_transmitted h h' service circumstances operation

/-- The bound contexts matter to a call only for what is filled in from them, on
the administrative service. -/
theorem startCall_rebound {bindings : Bindings} {circumstances : Circumstances}
    {call : Call}
    (h : ∀ operation, call.check = .ok operation →
      circumstances.optedIn = true →
      operation.resolve bindings = operation.resolve circumstances.bindings)
    (service : Service) (store : Store) :
    startCall service { circumstances with bindings } call store =
      startCall service circumstances call store := by
  unfold startCall
  cases hcheck : call.check with
  | error failure => rfl
  | ok operation =>
      have hbegin : begin service { circumstances with bindings }
        circumstances.optedIn operation store =
          begin service circumstances circumstances.optedIn operation store := by
        cases hopted : circumstances.optedIn with
        | false => rfl
        | true =>
            simp only [begin, if_true, administered, h operation hcheck hopted]
      simp only [start, consult, hbegin]

/-- Of the bound contexts, a call looks at the innermost one only. -/
theorem startCall_bindings {bindings : Bindings} {circumstances : Circumstances}
    (h : bindings.current = circumstances.bindings.current) (service : Service)
    (call : Call) (store : Store) :
    startCall service { circumstances with bindings } call store =
      startCall service circumstances call store :=
  startCall_rebound (fun operation _ _ => operation.resolve_congr h) service store

end Dispatch
end HostedModules
