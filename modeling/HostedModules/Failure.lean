/-
HostedModules.Failure — what can go wrong, and because of what.

* `Failure.Kind` — the kinds of failure: those of this library
  (`ConfigurationError`, and `ModulesError` with the kinds that belong to it),
  and those of the components below it
* `Failure.Kind.isA` — a handler may name a broader kind than the one that
  occurs
* `Failure` — a kind, its text, its declared cause, and what else it carries
* `Failure.text` is `none` where the wording belongs to the component that
  failed and is not fixed here

Not modelled: traces of the stack, and a failure that was being handled when
another one came up.  Only a declared cause is kept.
-/
import HostedModules.Value

namespace HostedModules
namespace Failure

/-- The kinds of failure. -/
inductive Kind where
  /-- Every failure whatever, fatal ones included. -/
  | anything
  /-- Every failure that work may recover from. -/
  | ordinary
  -- fatal kinds
  | interrupted
  | exit
  -- misuse of a value
  | runtime
  | tooDeep
  | wrongValue
  | wrongType
  | noAttribute
  | lookup
  | missingKey
  | arithmetic
  | overflow
  | system
  -- futures
  | timeout
  | futureFault
  | cancelled
  | invalidState
  -- this library
  | configuration
  | modules
  | invalidModule
  | invalidVersion
  | invalidInstances
  | transient
  | instanceUnavailable
  | unexpectedState
  | alreadyInDesiredState
  | remote
  | argument
  | unexpected
  -- the channel's remote service
  | application
  | messageFault
  | malformedMessage
  -- the transport of the administrative service
  | httpFault
  | request
  | httpStatus
  | connection
  | proxy
  | tls
  | requestTimeout
  | connectTimeout
  | readTimeout
  | urlRequired
  | tooManyRedirects
  | missingScheme
  | invalidScheme
  | invalidUrl
  | invalidHeader
  | invalidProxyUrl
  | chunkedBody
  | contentCoding
  | consumedBody
  | retries
  | unrewindableBody
  | invalidJson
  | jsonFault
  | malformedJson
  -- credentials
  | authentication
  | refresh
  | noCredentials
  | authTransport
  /-- An ordinary failure of some other component, known by its name alone. -/
  | other (name : String)
deriving DecidableEq, Repr

namespace Kind

/-- The broader kinds that a kind belongs to, the nearest first. -/
def broader : Kind → List Kind
  | .anything => []
  | .ordinary | .interrupted | .exit => [.anything]
  | .runtime | .wrongValue | .wrongType | .noAttribute | .lookup | .arithmetic
      | .system
  | .futureFault | .modules | .application | .messageFault | .httpFault
      | .authentication
  | .other _ => [.ordinary, .anything]
  | .missingKey => [.lookup, .ordinary, .anything]
  | .overflow => [.arithmetic, .ordinary, .anything]
  | .timeout => [.system, .ordinary, .anything]
  | .cancelled | .invalidState => [.futureFault, .ordinary, .anything]
  | .configuration | .tooDeep => [.runtime, .ordinary, .anything]
  | .invalidModule | .invalidVersion | .invalidInstances | .transient
      | .instanceUnavailable
  | .unexpectedState | .remote | .unexpected => [.modules, .ordinary, .anything]
  | .alreadyInDesiredState => [.unexpectedState, .modules, .ordinary, .anything]
  | .argument => [.modules, .wrongValue, .ordinary, .anything]
  | .malformedMessage => [.messageFault, .ordinary, .anything]
  | .request => [.system, .ordinary, .anything]
  | .httpStatus | .connection | .requestTimeout | .urlRequired
      | .tooManyRedirects | .chunkedBody
  | .retries | .unrewindableBody | .invalidJson =>
    [.request, .system, .ordinary, .anything]
  | .contentCoding => [.request, .system, .httpFault, .ordinary, .anything]
  | .proxy | .tls => [.connection, .request, .system, .ordinary, .anything]
  | .connectTimeout =>
      [.connection, .requestTimeout, .request, .system, .ordinary, .anything]
  | .readTimeout => [.requestTimeout, .request, .system, .ordinary, .anything]
  | .missingScheme | .invalidScheme | .invalidUrl | .invalidHeader =>
    [.request, .system, .wrongValue, .ordinary, .anything]
  | .invalidProxyUrl =>
      [.invalidUrl, .request, .system, .wrongValue, .ordinary, .anything]
  | .consumedBody => [.request, .system, .wrongType, .ordinary, .anything]
  | .jsonFault => [.wrongValue, .ordinary, .anything]
  | .malformedJson =>
      [.invalidJson, .request, .system, .jsonFault, .wrongValue, .ordinary,
        .anything]
  | .refresh | .noCredentials | .authTransport =>
      [.authentication, .ordinary, .anything]

/-- The kind is the other one or belongs to it. -/
def isA (kind wider : Kind) : Bool :=
  kind = wider || kind.broader.contains wider

/-- Work may recover from failures of this kind; all others end the process. -/
def recoverable (kind : Kind) : Bool := kind.isA .ordinary

/-- Every kind of this library's own, the configuration apart, is handled as
one. -/
def domain (kind : Kind) : Bool := kind.isA .modules

end Kind

/-- What a failure carries besides its text. -/
inductive Evidence (α : Type) where
  | nothing
  /-- The status of the reply it came with, if there was a reply. -/
  | status (code : Option Int)
  /-- The error code that the remote service reported. -/
  | code (value : Value)
  /-- The failure that it reports on. -/
  | about (failure : α)

end Failure

/-- A failure. -/
structure Failure where
  kind : Failure.Kind
  /-- The text, where it is fixed by this library or its inputs. -/
  text : Option String
  /-- The failure that it was declared to follow from. -/
  cause : Option Failure
  evidence : Failure.Evidence Failure

namespace Failure

/-- A failure with a text of its own and no cause. -/
def plain (kind : Kind) (text : String) : Failure :=
  ⟨kind, some text, none, .nothing⟩

/-- A failure whose wording is left to the component that failed. -/
def unworded (kind : Kind) : Failure := ⟨kind, none, none, .nothing⟩

/-- A failure that follows from another. -/
def because (kind : Kind) (text : Option String) (cause : Failure) : Failure :=
  ⟨kind, text, some cause, .nothing⟩

/-- The same failure, declared to follow from another. -/
def following (failure cause : Failure) : Failure :=
  { failure with cause := some cause }

/-- A text that ends by quoting a failure; it is fixed if the failure's text
is. -/
def quoting (opening : String) (failure : Failure) : Option String :=
  failure.text.map (opening ++ ·)

/-- A value of a kind that the operation does not take. -/
def wrongType : Failure := unworded .wrongType

/-- A complaint about a value of the wrong kind, which ends by quoting it.  One
that cannot be written cannot be quoted either. -/
def misfit (opening : String) (v : Value) : Failure :=
  if v.writable then plain .wrongType (opening ++ v.quoted)
    else unworded .wrongValue

/-- The field of this name was asked of something that is no record. -/
def noAttribute : Failure := unworded .noAttribute

/-- A record lacks the key. -/
def missingKey (key : String) : Failure := plain .missingKey (Text.quoted key)

/-- The process is not set up for the operation (`ConfigurationError`). -/
def configuration (text : String) : Failure := plain .configuration text

/-- The catch-all, wrapped around the failure that it reports on
(`UnexpectedFailure`). -/
def unexpected (text : Option String) (cause : Failure) : Failure :=
  ⟨.unexpected, text, some cause, .about cause⟩

/-- The failure that a catch-all reports on. -/
def subject? (failure : Failure) : Option Failure :=
  match failure.evidence with
  | .about subject => some subject
  | _ => none

/-- The status of the reply that a failure came with. -/
def status? (failure : Failure) : Option Int :=
  match failure.evidence with
  | .status code => code
  | _ => none

/-- The text of a failure that the remote service reported: its code and its
detail, trimmed. -/
def applicationText (code : Value) (detail : String) : String :=
  Text.trimBlanks ("ApplicationError: " ++ code.shown ++ " " ++ detail)

/-- A failure that the remote service reported (`ApplicationError`). -/
def application (code : Value) (detail : String) : Failure :=
  ⟨.application, some (applicationText code detail), none, .code code⟩

end Failure
end HostedModules
