/-
HostedModules.Admin.Exchange — what calls do besides answering, and
conversations with the administrative service.

Every call leaves a trace of effects in the order in which they happen:
questions to the opt-in flag, log records, requests to the administrative
service, calls on the legacy channel, and clients that are built.

* `Request`, `Effect` — a request, and one entry of a trace
* `Reply` — how the service answers a request, if it does
* `Reply.read` — the content of a reply, or the failure that it amounts to
* `Exchange` — work that sends requests: it uses up replies, leaves effects
  behind, and may fail

Not modelled: the transport.  What comes back for a request is the next reply of
a given list, or a failure in its place.
-/
import HostedModules.Failure
import HostedModules.Json.Document

namespace HostedModules

/-! ## Effects -/

/-- The level of a log record. -/
inductive Level where
  | debug
  | info
deriving DecidableEq, Repr

/-- A request to the administrative service. -/
structure Request where
  verb : String
  url : String
  /-- The query, if one is passed at all. -/
  params : Option (List (String × Value))
  /-- The body, if one is passed at all. -/
  body : Option Value

/-- One entry of a trace. -/
inductive Effect where
  /-- The opt-in flag is asked, and gives this answer. -/
  | consulted (answer : Bool)
  | logged (level : Level) (text : String)
  | requested (request : Request)
  /-- A call on the legacy channel: the method and the bytes of the request. -/
  | called (method : String) (request : List UInt8)
  /-- A client is asked for, labelled with the method that is going to use
  it. -/
  | labelled (method : String)

/-! ## Replies -/

/-- How a request is answered. -/
inductive Reply where
  | response (status : Int) (reason : Option String) (body : String)
  /-- The request fails on the way. -/
  | broken (failure : Failure)

namespace Reply

/-- The reply to a request that nothing else was prepared for. -/
def blank : Reply := .response 200 (some "OK") ""

/-- The failure of a reply whose status tells one. -/
def statusFailure (url : String) (status : Int) (reason : Option String)
    (side : String) : Failure :=
  ⟨.httpStatus,
    some (toString status ++ " " ++ side ++ " Error: " ++ reason.getD "None" ++
      " for url: " ++ url),
    none, .status (some status)⟩

/-- The content of a body: an empty one stands for an empty record. -/
def content (body : String) : Except Failure Value :=
  if body.isEmpty then .ok (.record [])
  else
    match Json.parse body with
    | .ok v => .ok v
    | .error .malformed => .error (.unworded .malformedJson)
    | .error .oversized => .error (.unworded .wrongValue)
    | .error .tooDeep => .error (.unworded .tooDeep)

/-- The content of a reply to a request for this address. -/
def read (url : String) : Reply → Except Failure Value
  | .broken failure => .error failure
  | .response status reason body =>
    if 400 ≤ status ∧ status < 500 then
      .error (statusFailure url status reason "Client")
    else if 500 ≤ status ∧ status < 600 then
      .error (statusFailure url status reason "Server")
    else content body

end Reply

/-- A conversation: the replies that are still to come, and what has
happened. -/
structure Dialogue where
  replies : List Reply
  effects : List Effect

/-- Work that sends requests. -/
abbrev Exchange (α : Type) := ExceptT Failure (StateM Dialogue) α

namespace Dialogue

/-- The dialogue with something more having happened. -/
def add (dialogue : Dialogue) (effects : List Effect) : Dialogue :=
  { dialogue with effects := dialogue.effects ++ effects }

/-- The next reply, and the dialogue without it. -/
def takeReply (dialogue : Dialogue) : Reply × Dialogue :=
  match dialogue.replies with
  | reply :: rest => (reply, { dialogue with replies := rest })
  | [] => (Reply.blank, dialogue)

end Dialogue

namespace Exchange

/-- Work that only computes. -/
def lift {α : Type} (result : Except Failure α) : Exchange α :=
  fun dialogue => (result, dialogue)

/-- Something happens. -/
def emit (effects : List Effect) : Exchange Unit :=
  fun dialogue => (.ok (), dialogue.add effects)

/-- The same work with its failure replaced. -/
def mapFailure {α : Type} (f : Failure → Failure) (work : Exchange α) :
    Exchange α := fun dialogue =>
  match work dialogue with
  | (.ok a, after) => (.ok a, after)
  | (.error failure, after) => (.error (f failure), after)

end Exchange

end HostedModules
