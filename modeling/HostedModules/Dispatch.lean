/-
HostedModules.Dispatch — where an operation is carried out.

Every operation asks afresh whether it goes to the administrative service.  If
so, what was left out is filled in from the current context at once, and the
rest is done by a worker with a client of its own.  If not, it goes over the
legacy channel as it is.

* `Circumstances` — everything else that a call depends on
* `Dispatch.start` — start an operation and return the future of its outcome
* `Dispatch.startCall` — the same for a call with the arguments of the caller
  (`get_modules_async` to `get_hostname_async`)

Not modelled: the worker threads and the bound on their number.  A worker is
done when its work is submitted.
-/
import HostedModules.Channel.Call
import HostedModules.Operation
import HostedModules.Operation.Named
import HostedModules.Registry

namespace HostedModules

/-- What a call meets. -/
structure Circumstances where
  /-- The answer of the opt-in flag: the call goes to the administrative
  service. -/
  optedIn : Bool
  /-- The contexts bound where the call is made. -/
  bindings : Bindings
  /-- The client that is built for the call, or why there is none. -/
  client : Except Failure Client
  /-- The replies of the administrative service. -/
  replies : List Reply
  /-- The reaction of the legacy channel. -/
  reaction : Channel.Reaction

namespace Dispatch

/-- What the choice of a backend leaves in the log. -/
def route (optedIn : Bool) (operation : Operation) : Effect :=
  .logged .debug ("Routing " ++ operation.label ++ " via "
    ++ (if optedIn then "Admin API" else "legacy channel"))

/-- What a worker does (`run` within `_submit`): build a client, and carry out
an operation in which nothing is left out. -/
def work (service : Service) (client : Except Failure Client)
    (operation : Operation) : Exchange Answer := do
  Exchange.emit [.labelled operation.label]
  let client ← Exchange.lift client
  operation.administer client (.text service.project)

/-- Start an operation on the administrative service (`_submit`). -/
def administered (service : Service) (circumstances : Circumstances)
    (operation : Operation) (store : Store) : Attempt :=
  match operation.resolve circumstances.bindings with
  | .error failure => .refused failure store [] circumstances.replies
  | .ok resolved =>
    let (outcome, dialogue) :=
      work service circumstances.client resolved ⟨circumstances.replies, []⟩
    let (id, store) := store.submit outcome
    ⟨.ok id, none, store, dialogue.effects, dialogue.replies⟩

/-- There is no legacy channel to make a call on. -/
def noChannel : Failure :=
  .configuration "No legacy channel available, and Admin API not enabled"

/-- Start an operation on the legacy channel. -/
def transmitted (service : Service) (circumstances : Circumstances)
    (operation : Operation) (store : Store) : Attempt :=
  if service.hasChannel then
    match operation.checkSpelling with
    | .error failure => .refused failure store [] circumstances.replies
    | .ok () =>
        Channel.call operation.command circumstances.reaction store
          circumstances.replies
  else .refused noChannel store [] circumstances.replies

/-- Start an operation on the backend that the opt-in flag tells. -/
def begin (service : Service) (circumstances : Circumstances) (optedIn : Bool)
    (operation : Operation) (store : Store) : Attempt :=
  if optedIn then administered service circumstances operation store
  else transmitted service circumstances operation store

/-- Ask the opt-in flag, and go on with its answer (`_admin_path`). -/
def consult (circumstances : Circumstances) (operation : Operation)
    (next : Bool → Attempt) : Attempt :=
  (next circumstances.optedIn).after
    [.consulted circumstances.optedIn, route circumstances.optedIn operation]

/-- Take "nothing to do" for a success, where the operation is one of which that
holds. -/
def lenient (operation : Operation) (attempt : Attempt) : Attempt :=
  match operation.suppression? with
  | some message => attempt.follow (.suppress message)
  | none => attempt

/-- Start an operation.  The future of the attempt ends with its outcome. -/
def start (service : Service) (circumstances : Circumstances)
    (operation : Operation) (store : Store) :
    Attempt :=
  consult circumstances operation fun optedIn =>
    lenient operation (begin service circumstances optedIn operation store)

/-- Start an operation as the caller asks for it.  A bad argument is refused
before anything happens. -/
def startCall (service : Service) (circumstances : Circumstances) (call : Call)
    (store : Store) : Attempt :=
  match call.check with
  | .error failure => .refused failure store [] circumstances.replies
  | .ok operation => start service circumstances operation store

end Dispatch
end HostedModules
