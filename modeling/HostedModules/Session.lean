/-
HostedModules.Session — a process that uses the facade, step by step.

* `Session` — the environment, the bound contexts, the opt-in answer, and all
  futures
* `Session.Step` — what the process may do next: a method of `ModulesService`,
  blocking or not, `wait`, `bind`, and what the channel and the surroundings do
* `Session.take` — one step: what it ends with, what it causes, and the session
  after it

Not modelled: threads.  Steps are taken one after the other and share one row of
bound contexts, work of a worker is done within the step that submits it, and
there is no bound on the number of workers.
-/
import HostedModules.Dispatch

namespace HostedModules

/-- The state of a process that uses the facade. -/
structure Session where
  environment : Environment
  bindings : Bindings
  /-- The opt-in answer, if the service was made with one of its own. -/
  override : Option Bool
  store : Store

namespace Session

/-- A process in which nothing has happened yet. -/
def initial (environment : Environment) (override : Option Bool) : Session :=
  ⟨environment, [], override, .empty⟩

/-- Calls go to the administrative service: the answer given for the service, or
else the environment's. -/
def optedIn (session : Session) : Bool :=
  session.override.getD session.environment.optedIn

/-- What the backends have in store for a call. -/
structure Backends where
  client : Except Failure Client
  replies : List Reply
  reaction : Channel.Reaction

/-- What a call meets when it is made now. -/
def circumstances (session : Session) (backends : Backends) : Circumstances :=
  ⟨session.optedIn, session.bindings, backends.client, backends.replies,
    backends.reaction⟩

/-- A step of a process. -/
inductive Step where
  /-- Make a call and wait for its outcome, so long at most. -/
  | call (call : Call) (limit : Value) (backends : Backends)
  /-- Make a call and keep its future. -/
  | launch (call : Call) (backends : Backends)
  /-- Wait for a future, so long at most. -/
  | wait (id : Nat) (limit : Value)
  /-- End a future that the legacy channel handed out. -/
  | settle (id : Nat) (outcome : Future.Outcome)
  /-- Cancel a future. -/
  | cancel (id : Nat)
  /-- Change the opt-in answer of the service, if it has one of its own. -/
  | optIn (answer : Bool)
  /-- Set an environment variable, or remove it. -/
  | setVariable (name : String) (value : Option String)
  /-- Enter a block with a context (`bind`). -/
  | bind (context : Context)
  /-- Leave the innermost block, normally or with an exception. -/
  | unbind

/-- What a step ends with. -/
inductive Report where
  | done
  | flag (answer : Bool)
  | future (id : Nat)
  | answer (answer : Answer)
  /-- The future has not ended, and the caller waits for it without a limit. -/
  | blocked

/-- A step that was taken. -/
structure Taken where
  report : Except Failure Report
  /-- The future that the legacy channel handed out, if it did. -/
  source : Option Nat
  effects : List Effect
  /-- Replies that were not used. -/
  unread : List Reply
  session : Session

/-- A step that touches no backend. -/
def quiet (session : Session) (report : Except Failure Report) : Taken :=
  ⟨report, none, [], [], session⟩

/-- What a process makes of an attempt: the report on its future, unless the
call could not be started. -/
def conclude (session : Session) (report : Store → Nat → Except Failure Report)
    (attempt : Attempt) : Taken :=
  ⟨attempt.future.bind (report attempt.store), attempt.source, attempt.effects,
    attempt.unread,
    { session with store := attempt.store }⟩

/-- What a caller that waits for a future reports on it (`wait`). -/
def awaited (limit : Value) (store : Store) (id : Nat) :
    Except Failure Report :=
  match store.wait? limit id with
  | some outcome => outcome.map .answer
  | none => .ok .blocked

/-- Take one step. -/
def take (service : Service) (session : Session) : Step → Taken
  | .call call limit backends =>
    session.conclude (awaited limit)
      (Dispatch.startCall service (session.circumstances backends) call
        session.store)
  | .launch call backends =>
    session.conclude (fun _ id => .ok (.future id))
      (Dispatch.startCall service (session.circumstances backends) call
        session.store)
  | .wait id limit => session.quiet (awaited limit session.store id)
  | .settle id outcome =>
    match session.store.set id outcome with
    | .error failure => session.quiet (.error failure)
    | .ok (store, events) =>
        ⟨.ok .done, none, Effect.ofEvents events, [], { session with store }⟩
  | .cancel id =>
    let (answer, store, events) := session.store.cancel id
    ⟨.ok (.flag answer), none, Effect.ofEvents events, [],
      { session with store }⟩
  | .optIn answer =>
      quiet { session with override := session.override.map fun _ => answer }
        (.ok .done)
  | .setVariable name value =>
    quiet { session with environment := session.environment.update name value }
      (.ok .done)
  | .bind context =>
    ⟨.ok .done, none, [.logged .debug ("Bound context " ++ context.described)], [],
      { session with bindings := context :: session.bindings }⟩
  | .unbind =>
      quiet { session with bindings := session.bindings.tail }
        (.ok (.flag false))

end Session
end HostedModules
