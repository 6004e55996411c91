/-
HostedModules.Proofs.Dispatch.Exclusive — a call uses one backend, the one that
the opt-in flag tells.

* `Effect.consultations`, `Effect.labels`, `Effect.commands` — the questions to
  the flag in a trace, the clients that are built, and the calls on the channel
* `Signature.Every` — what is so of all that comes of a signature, whatever the
  values are
* `Call.method`, `Call.worker` — the method that is called, and the one that
  does the work; `Call.method_of_named` — it is the one that is asked for
* `Call.Passes`, `Call.Yields` — the operation that a call asks for, and what
  the two have in common
* `Dispatch.Exclusive`, `startCall_exclusive` — one question, and no trace of
  the other backend
-/
import HostedModules.Proofs.Steps
import HostedModules.Operation.Named
import HostedModules.Proofs.Dispatch.Start

namespace HostedModules

open Future

namespace Effect

/-- The answers of the opt-in flag in a trace. -/
def consultations (effects : List Effect) : List Bool :=
  effects.filterMap fun
    | .consulted answer => some answer
    | _ => none

/-- The labels of the clients that are built in a trace. -/
def labels (effects : List Effect) : List String :=
  effects.filterMap fun
    | .labelled method => some method
    | _ => none

/-- The calls on the legacy channel in a trace. -/
def commands (effects : List Effect) : List (String × List UInt8) :=
  effects.filterMap fun
    | .called method request => some (method, request)
    | _ => none

/-- What requests to the administrative service leave in a trace. -/
def Administrative : Effect → Prop
  | .logged _ _ | .requested _ => True
  | _ => False

/-- What calls on the legacy channel leave in a trace. -/
def Legacy : Effect → Prop
  | .logged _ _ | .called _ _ => True
  | _ => False

theorem Administrative.absent {effects : List Effect}
    (h : ∀ effect ∈ effects, Administrative effect) :
    consultations effects = [] ∧ labels effects = [] ∧ commands effects = [] := by
  refine ⟨List.filterMap_eq_nil_iff.2 ?_, List.filterMap_eq_nil_iff.2 ?_,
    List.filterMap_eq_nil_iff.2 ?_⟩
  all_goals
    intro effect hmem
    have hkind := h effect hmem
    cases effect <;> first | rfl | exact hkind.elim

theorem Legacy.absent {effects : List Effect}
    (h : ∀ effect ∈ effects, Legacy effect) :
    consultations effects = [] ∧ labels effects = [] ∧ requests effects = [] := by
  refine ⟨List.filterMap_eq_nil_iff.2 ?_, List.filterMap_eq_nil_iff.2 ?_,
    List.filterMap_eq_nil_iff.2 ?_⟩
  all_goals
    intro effect hmem
    have hkind := h effect hmem
    cases effect <;> first | rfl | exact hkind.elim

theorem labelled_only (methods : List String) :
    consultations (methods.map .labelled) = [] ∧
      labels (methods.map .labelled) = methods ∧
      commands (methods.map .labelled) = [] := by
  simp [consultations, labels, commands, List.filterMap_map]

theorem ofEvents_logged {events : List Event} {effect : Effect}
    (h : effect ∈ ofEvents events) :
    ∃ message, effect = .logged .info message := by
  obtain ⟨event, -, hevent⟩ := List.mem_filterMap.1 h
  cases event with
  | logged message => exact ⟨message, (Option.some.inj hevent).symm⟩
  | converted id => exact nomatch hevent
  | recovered id => exact nomatch hevent

end Effect

/-! ## Arguments by name -/

namespace Arguments

variable {α : Type} {P : α → Prop} {named : List (String × Value)} {result : α}

/-- Whatever the values are, what comes of them has the property. -/
def Every (P : α → Prop) :
    (parameters : List Parameter) → Taking α parameters → Prop
  | [], result => P result
  | _ :: rest, make => ∀ value, Every P rest (make value)

theorem of_fillNamed :
    ∀ (parameters : List Parameter) (make : Taking α parameters),
      fillNamed named parameters make = .ok result → Every P parameters make →
        P result
  | [], made, h, hevery => Except.ok.inj h ▸ hevery
  | parameter :: rest, make, h, hevery => by
      rw [fillNamed] at h
      split at h
      · exact of_fillNamed rest _ h (hevery _)
      · exact nomatch h

theorem of_fill :
    ∀ (parameters : List Parameter) (make : Taking α parameters)
      (placed : List Value), fill named parameters make placed = .ok result →
        Every P parameters make → P result
  | _ :: rest, make, value :: placed, h, hevery =>
      of_fill rest (make value) placed h (hevery value)
  | [], make, _ :: _, h, _ => nomatch h
  | parameters, make, [], h, hevery => by
      rw [fill] at h
      split at h
      · exact of_fillNamed parameters make h hevery
      · exact nomatch h

end Arguments

namespace Signature

variable {α : Type} {P : α → Prop}

/-- Whatever the values are, what comes of them has the property. -/
def Every (P : α → Prop) (signature : Signature α) : Prop :=
  Arguments.Every P signature.parameters signature.make

/-- What comes of some arguments comes of some values. -/
theorem of_apply {signature? : Option (Signature α)} {placed : List Value}
    {named : List (String × Value)} {result : α}
    (h : apply signature? placed named = .ok result)
    (hevery : ∀ signature, signature? = some signature → signature.Every P) :
    P result := by
  cases signature? with
  | none => exact nomatch h
  | some signature =>
      exact Arguments.of_fill signature.parameters signature.make placed h
        (hevery signature rfl)

end Signature

/-! ## Methods -/

namespace Operation

/-- The module and the version that an operation is about. -/
def target : Operation → Target
  | .modules => ⟨.null, .null⟩
  | .versions moduleName | .defaultVersion moduleName => ⟨moduleName, .null⟩
  | .countInstances target | .setInstances _ target | .start target
  | .stop target | .versionHostname target
  | .instanceHostname _ target => target

end Operation

namespace Call

/-- The name of the method that is called. -/
def method : Call → String
  | .modules => "get_modules"
  | .versions _ => "get_versions"
  | .defaultVersion _ => "get_default_version"
  | .countInstances _ => "get_num_instances"
  | .setInstances _ _ => "set_num_instances"
  | .start _ => "start_version"
  | .stop _ => "stop_version"
  | .versionHostname _ => "get_version_hostname"
  | .instanceHostname _ _ => "get_instance_hostname"
  | .hostname _ _ => "get_hostname"

/-- The name of the method that does the work of a call.  Only the one for the
hostname of a version or an instance leaves it to another. -/
def worker : Call → String
  | .hostname .null _ => "get_version_hostname"
  | .hostname _ _ => "get_instance_hostname"
  | call => call.method

/-- Whatever the values, a call is made by the name of its method. -/
theorem every_signature {name : String} {signature : Signature Call}
    (h : signature? name = some signature) :
    signature.Every fun call => call.method = name := by
  unfold signature? at h
  split at h
  case h_11 => exact nomatch h
  all_goals
    obtain rfl := Option.some.inj h
    simp [Signature.Every, Arguments.Every, Parameter.target, method]

/-- Calls are made by the name of their method. -/
theorem method_of_named {name : String} {arguments : List (String × Value)}
    {call : Call} (h : named name arguments = .ok call) :
    call.method = name := by
  unfold named at h
  exact Signature.of_apply (P := fun call => call.method = name) h
    fun _ hsignature => every_signature hsignature

theorem checkInstance_eq_ok {number : Value} {target : Target}
    {operation : Operation} (h : checkInstance number target = .ok operation) :
    ∃ n, Instance.parse number = .ok n ∧
      operation = .instanceHostname n target := by
  obtain ⟨n, hparse, rfl⟩ := Failure.map_eq_ok.1 h
  exact ⟨n, hparse, rfl⟩

/-- The call passes its check, and this is the operation that it asks for. -/
inductive Passes : Call → Operation → Prop
  | modules : Passes .modules .modules
  | versions (moduleName : Value) :
      Passes (.versions moduleName) (.versions moduleName)
  | defaultVersion (moduleName : Value) :
      Passes (.defaultVersion moduleName) (.defaultVersion moduleName)
  | countInstances (target : Target) :
      Passes (.countInstances target) (.countInstances target)
  | setInstances (count : Int) (target : Target) :
    Passes (.setInstances (.int count) target) (.setInstances count target)
  | start (target : Target) : Passes (.start target) (.start target)
  | stop (target : Target) : Passes (.stop target) (.stop target)
  | versionHostname (target : Target) :
      Passes (.versionHostname target) (.versionHostname target)
  | instanceHostname {number : Value} {n : Nat} (target : Target) :
    Instance.parse number = .ok n →
      Passes (.instanceHostname number target) (.instanceHostname n target)
  | hostname (target : Target) :
      Passes (.hostname .null target) (.versionHostname target)
  | hostnameOf {number : Value} {n : Nat} (target : Target) :
    Instance.parse number = .ok n →
      Passes (.hostname number target) (.instanceHostname n target)

theorem passes_of_check {call : Call} {operation : Operation}
    (h : call.check = .ok operation) :
    Passes call operation := by
  cases call with
  | setInstances count target =>
      cases count with
      | int n => exact Except.ok.inj h ▸ .setInstances n target
      | _ => exact nomatch h
  | instanceHostname number target =>
      obtain ⟨n, hparse, rfl⟩ := checkInstance_eq_ok h
      exact .instanceHostname target hparse
  | hostname number target =>
      cases number with
      | null => exact Except.ok.inj h ▸ .hostname target
      | _ =>
          obtain ⟨n, hparse, rfl⟩ := checkInstance_eq_ok h
          exact .hostnameOf target hparse
  | _ => exact Except.ok.inj h ▸ by constructor

/-- The module and the version that a call is about; one about all modules, or
about all versions, names nothing more. -/
def target : Call → Target
  | .modules => ⟨.null, .null⟩
  | .versions moduleName | .defaultVersion moduleName => ⟨moduleName, .null⟩
  | .countInstances target | .setInstances _ target | .start target
  | .stop target | .versionHostname target
  | .instanceHostname _ target | .hostname _ target => target

/-- The instance count that a call asks for, `null` if it asks for none. -/
def count : Call → Value
  | .setInstances count _ => count
  | _ => .null

/-- The instance that a call names, `null` if it names none. -/
def number : Call → Value
  | .instanceHostname number _ | .hostname number _ => number
  | _ => .null

/-- What a call and its operation, the arguments checked, have in common. -/
structure Yields (call : Call) (operation : Operation) : Prop where
  /-- The operation is labelled with the method that does the work. -/
  label : operation.label = call.worker
  target : operation.target = call.target
  number : ∀ n, (∃ target, operation = .instanceHostname n target) ↔
    Instance.parse call.number = .ok n
  count : ∀ n, (∃ target, operation = .setInstances n target) ↔
    call.count = .int n

theorem yields_of_parse {call : Call} {number : Value} {n : Nat}
    {target : Target} (hworker : call.worker = "get_instance_hostname")
    (htarget : call.target = target) (hnumber : call.number = number)
    (hcount : call.count = .null) (hparse : Instance.parse number = .ok n) :
    Yields call (.instanceHostname n target) := by
  refine ⟨hworker.symm, htarget.symm, fun m => ⟨?_, fun hm => ?_⟩,
    fun m => ⟨?_, fun hm => ?_⟩⟩
  · rintro ⟨_, heq⟩
    obtain ⟨rfl, -⟩ := Operation.instanceHostname.inj heq
    rw [hnumber, hparse]
  · rw [hnumber, hparse] at hm
    exact ⟨target, by rw [Except.ok.inj hm]⟩
  · rintro ⟨_, heq⟩
    exact nomatch heq
  · rw [hcount] at hm
    exact nomatch hm

/-- A call whose arguments pass their check makes this operation. -/
theorem yields_of_check {call : Call} {operation : Operation}
    (h : call.check = .ok operation) :
    Yields call operation := by
  cases passes_of_check h with
  | setInstances n target =>
      refine ⟨rfl, rfl,
        fun m => ⟨fun ⟨_, heq⟩ => (nomatch heq), fun hm => (nomatch hm)⟩,
        fun m => ⟨?_, fun hm => ?_⟩⟩
      · rintro ⟨_, heq⟩
        obtain ⟨rfl, -⟩ := Operation.setInstances.inj heq
        rfl
      · obtain rfl := Value.int.inj hm
        exact ⟨target, rfl⟩
  | instanceHostname target hparse =>
      exact yields_of_parse rfl rfl rfl rfl hparse
  | @hostnameOf number n target hparse =>
      have hworker :
          (Call.hostname number target).worker = "get_instance_hostname" := by
        cases number with
        | null => exact nomatch hparse
        | _ => rfl
      exact yields_of_parse hworker rfl rfl rfl hparse
  | _ =>
      exact ⟨rfl, rfl,
        fun m => ⟨fun ⟨_, heq⟩ => (nomatch heq), fun hm => (nomatch hm)⟩,
        fun m => ⟨fun ⟨_, heq⟩ => (nomatch heq), fun hm => (nomatch hm)⟩⟩

end Call

namespace Operation

theorem label_resolve {bindings : Bindings} {operation resolved : Operation}
    (h : operation.resolve bindings = .ok resolved) :
    resolved.label = operation.label := by
  cases operation with
  | modules => obtain rfl := Except.ok.inj h; rfl
  | _ =>
      obtain ⟨a, -, rfl⟩ := Failure.map_eq_ok.1 h
      rfl

end Operation

/-! ## Attempts -/

namespace Dispatch

open Attempt Effect

theorem follow_effects (attempt : Attempt) (derivation : Derivation) :
    ∃ logs, (attempt.follow derivation).effects = attempt.effects ++ logs ∧
      ∀ effect ∈ logs, ∃ message, effect = .logged .info message := by
  unfold Attempt.follow
  cases attempt.future with
  | error failure =>
      exact ⟨[], (List.append_nil _).symm, fun _ hmem => nomatch hmem⟩
  | ok id => exact ⟨_, rfl, fun _ hmem => ofEvents_logged hmem⟩

theorem lenient_effects (operation : Operation) (attempt : Attempt) :
    ∃ logs, (lenient operation attempt).effects = attempt.effects ++ logs ∧
      ∀ effect ∈ logs, ∃ message, effect = .logged .info message := by
  unfold lenient
  cases operation.suppression? with
  | none => exact ⟨[], (List.append_nil _).symm, fun _ hmem => nomatch hmem⟩
  | some message => exact follow_effects attempt _

/-- The clients that an operation builds on the administrative service: one,
once everything that was left out is filled in. -/
def clients (bindings : Bindings) (operation : Operation) : List String :=
  match operation.resolve bindings with
  | .ok _ => [operation.label]
  | .error _ => []

theorem work_effects (service : Service) (client : Except Failure Client)
    (operation : Operation) (replies : List Reply) :
    ∃ added,
      (work service client operation ⟨replies, []⟩).2.effects =
        .labelled operation.label :: added ∧
      ∀ effect ∈ added, Administrative effect := by
  have hrequests : ∀ client : Client, client.Requests Administrative := by
    intro client verb path params body effect hmem
    rcases List.mem_cons.1 hmem with rfl | hmem
    · trivial
    · obtain rfl := List.mem_singleton.1 hmem
      trivial
  have hrest : Exchange.Adds Administrative
      (Exchange.lift client >>= fun client =>
        operation.administer client (.text service.project)) :=
    Exchange.adds_bind (Exchange.adds_lift client) fun client =>
      Operation.administer_adds (hrequests client) _ operation
  exact hrest ⟨replies, [.labelled operation.label]⟩

theorem administered_effects (service : Service) (circumstances : Circumstances)
    (operation : Operation) (store : Store) :
    ∃ added, (administered service circumstances operation store).effects =
        (clients circumstances.bindings operation).map .labelled ++ added ∧
      ∀ effect ∈ added, Administrative effect := by
  unfold administered clients
  cases hresolve : operation.resolve circumstances.bindings with
  | error failure => exact ⟨[], rfl, fun _ hmem => nomatch hmem⟩
  | ok resolved =>
      obtain ⟨added, hadded, hkind⟩ :=
        work_effects service circumstances.client resolved circumstances.replies
      refine ⟨added, ?_, hkind⟩
      rw [Operation.label_resolve hresolve] at hadded
      exact hadded

theorem transmit_effects (command : Channel.Command) (request : List UInt8)
    (reaction : Channel.Reaction) (store : Store) (unread : List Reply) :
    ∀ effect ∈ (Channel.transmit command request reaction store unread).effects,
      Legacy effect := by
  have hfollow : ∀ store' : Store,
      ∀ effect ∈ (Attempt.follow command.derivation ⟨.ok store.next,
        some store.next, store',
        [Effect.called command.method request], unread⟩).effects,
          Legacy effect := by
    intro store' effect hmem
    obtain ⟨logs, hlogs, hkind⟩ :=
      follow_effects ⟨.ok store.next, some store.next, store',
      [Effect.called command.method request], unread⟩ command.derivation
    rw [hlogs] at hmem
    rcases List.mem_append.1 hmem with hmem | hmem
    · obtain rfl := List.mem_singleton.1 hmem
      trivial
    · obtain ⟨message, rfl⟩ := hkind effect hmem
      trivial
  cases reaction with
  | throws failure =>
      intro effect hmem
      obtain rfl := List.mem_singleton.1 hmem
      trivial
  | answers bytes => exact hfollow _
  | fails failure => exact hfollow _
  | pending => exact hfollow _

theorem transmitted_effects (service : Service) (circumstances : Circumstances)
    (operation : Operation) (store : Store) :
    ∀ effect ∈ (transmitted service circumstances operation store).effects,
      Legacy effect := by
  intro effect hmem
  unfold transmitted at hmem
  split at hmem
  · split at hmem
    · exact nomatch hmem
    · unfold Channel.call at hmem
      split at hmem
      · obtain rfl := List.mem_singleton.1 hmem
        trivial
      · rcases List.mem_cons.1 hmem with rfl | hmem
        · trivial
        · exact transmit_effects _ _ _ _ _ effect hmem
  · exact nomatch hmem

/-- The trace of a call on an operation: one question to the opt-in flag, and
then one backend only. -/
structure Exclusive (circumstances : Circumstances) (operation : Operation)
    (effects : List Effect) : Prop where
  consulted : consultations effects = [circumstances.optedIn]
  administered : circumstances.optedIn = true →
    commands effects = [] ∧
      labels effects = clients circumstances.bindings operation
  transmitted : circumstances.optedIn = false → labels effects = [] ∧
    requests effects = []

/-- Every call whose arguments pass their check asks the flag once, and uses the
backend that it tells. -/
theorem startCall_exclusive (service : Service) (circumstances : Circumstances)
    {call : Call} {operation : Operation} (store : Store)
    (h : call.check = .ok operation) :
    Exclusive circumstances operation
      (startCall service circumstances call store).effects := by
  obtain ⟨logs, hlogs, hinfo⟩ :=
    lenient_effects operation
      (begin service circumstances circumstances.optedIn operation store)
  have heffects : (startCall service circumstances call store).effects =
      .consulted circumstances.optedIn ::
        route circumstances.optedIn operation ::
        ((begin service circumstances circumstances.optedIn operation
          store).effects ++ logs) := by
    rw [← hlogs, startCall, h]
    rfl
  rw [heffects]
  cases hopted : circumstances.optedIn with
  | true =>
      obtain ⟨added, hadded, hkind⟩ :=
        administered_effects service circumstances operation store
      have hrest : ∀ effect ∈ added ++ logs, Administrative effect := by
        intro effect hmem
        rcases List.mem_append.1 hmem with hmem | hmem
        · exact hkind effect hmem
        · obtain ⟨message, rfl⟩ := hinfo effect hmem
          trivial
      obtain ⟨hconsulted, hlabels, hcommands⟩ := Administrative.absent hrest
      rw [begin, if_pos rfl, hadded, List.append_assoc]
      have hfirst := labelled_only (clients circumstances.bindings operation)
      refine ⟨?_, fun _ => ⟨?_, ?_⟩, fun h => ?_⟩
      · rw [hopted]
        exact congrArg (true :: ·)
          (List.filterMap_append.trans (congrArg₂ _ hfirst.1 hconsulted))
      · exact List.filterMap_append.trans (congrArg₂ _ hfirst.2.2 hcommands)
      · exact List.filterMap_append.trans
          ((congrArg₂ _ hfirst.2.1 hlabels).trans (List.append_nil _))
      · simp [hopted] at h
  | false =>
      have hrest : ∀ effect ∈
        (transmitted service circumstances operation store).effects ++ logs,
          Legacy effect := by
        intro effect hmem
        rcases List.mem_append.1 hmem with hmem | hmem
        · exact transmitted_effects service circumstances operation store effect hmem
        · obtain ⟨message, rfl⟩ := hinfo effect hmem
          trivial
      obtain ⟨hconsulted, hlabels, hrequests⟩ := Legacy.absent hrest
      rw [begin, if_neg Bool.false_ne_true]
      refine ⟨?_, fun h => ?_, fun _ => ⟨hlabels, hrequests⟩⟩
      · rw [hopted]
        exact congrArg (false :: ·) hconsulted
      · simp [hopted] at h

end Dispatch
end HostedModules
