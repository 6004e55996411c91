/-
HostedModules.Channel.Call — calls on the legacy channel.

A call that can be started yields the number of a future, which ends with the
outcome of the call, perhaps at once.  One that cannot be started fails on the
spot.

* `Attempt` — the future or the failure, and everything that has changed
* `Attempt.follow` — derive the future of an attempt further
* `Channel.Reaction` — how the channel reacts to a call
* `Channel.call` — encode a request, hand it to the channel, and derive the
  outcome from what it hands out (`call`)
-/
import HostedModules.Admin.Exchange
import HostedModules.Channel.Command
import HostedModules.Future.Store

namespace HostedModules

/-- The effects of what happened while dependants ran: the messages that were
logged. -/
def Effect.ofEvents (events : List Future.Event) : List Effect :=
  events.filterMap fun
    | .logged message => some (.logged .info message)
    | _ => none

/-- What comes of starting a call. -/
structure Attempt where
  /-- The future that ends with the outcome of the call. -/
  future : Except Failure Nat
  /-- The future that the legacy channel handed out, if it did. -/
  source : Option Nat
  store : Store
  effects : List Effect
  /-- Replies that were not used. -/
  unread : List Reply

namespace Attempt

/-- A call that could not be started. -/
def refused (failure : Failure) (store : Store) (effects : List Effect)
    (unread : List Reply) : Attempt :=
  ⟨.error failure, none, store, effects, unread⟩

/-- The attempt with something else having happened first. -/
def after (effects : List Effect) (attempt : Attempt) : Attempt :=
  { attempt with effects := effects ++ attempt.effects }

/-- The attempt with a future derived from its own in its place. -/
def follow (derivation : Future.Derivation) (attempt : Attempt) : Attempt :=
  match attempt.future with
  | .error _ => attempt
  | .ok id =>
    let (derived, store, events) := attempt.store.derive id derivation
    { attempt with future := .ok derived, store, effects :=
      attempt.effects ++ Effect.ofEvents events }

end Attempt

namespace Channel

/-- How the channel reacts to a call. -/
inductive Reaction where
  /-- It answers with these bytes. -/
  | answers (bytes : List UInt8)
  /-- The call fails. -/
  | fails (failure : Failure)
  /-- It does not take the call at all. -/
  | throws (failure : Failure)
  /-- It will answer later. -/
  | pending

/-- The outcome that a reaction brings, unless it is to come later. -/
def Reaction.outcome? : Reaction → Option Future.Outcome
  | .answers bytes => some (.ok (.value (.bytes bytes)))
  | .fails failure => some (.error failure)
  | .throws failure => some (.error failure)
  | .pending => none

/-- The future that the channel hands out for a call that it takes. -/
def handOut (outcome : Option Future.Outcome) (store : Store) : Nat × Store :=
  match outcome with
  | some outcome => store.submit outcome
  | none => store.create

/-- Hand a request to the channel (`make_async_call`), and derive the outcome of
the call from the future that comes back. -/
def transmit (command : Command) (request : List UInt8) (reaction : Reaction)
    (store : Store) (unread : List Reply) : Attempt :=
  let effects := [Effect.called command.method request]
  match reaction with
  | .throws failure => .refused failure store effects unread
  | reaction =>
    let (source, store) := handOut reaction.outcome? store
    Attempt.follow command.derivation ⟨.ok source, some source, store, effects, unread⟩

/-- What a call leaves in the log before it is sent. -/
def announcement (command : Command) : Effect :=
  .logged .debug ("Legacy call: " ++ package ++ "." ++ command.method ++ " "
    ++ (Value.record command.fields).quoted)

/-- Make a call.  A request that cannot be encoded is not sent. -/
def call (command : Command) (reaction : Reaction) (store : Store)
    (unread : List Reply) : Attempt :=
  match encodeRequest command.fields with
  | .error failure => .refused failure store [announcement command] unread
  | .ok request =>
      (transmit command request reaction store unread).after
        [announcement command]

end Channel

end HostedModules
