/-
HostedModules.Channel.Command — what the legacy channel is asked to do.

Requests and responses are dynamic records.  An argument that was not given is
left out of the request, so that the service can apply its own default.

* `Channel.encodeRequest`, `Channel.decodeResponse` — the bytes of a request and
  the fields of a response (`encode_request`, `decode_response`)
* `Channel.Command` — the calls, each with its arguments (`get_modules` to
  `get_hostname`); an argument that is `null` was not given
* `Command.method`, `Command.fields` — a call as the channel sends it
* `Command.convert` — what the fields of its response mean
* `Command.recover` — what a failure that the remote service reported means
  (`_convert_error`)
-/
import HostedModules.ActionResult
import HostedModules.Future.Store
import HostedModules.Value.Access
import HostedModules.Wire.Decode
import HostedModules.Wire.Encode

namespace HostedModules
namespace Channel

/-- The name under which the channel routes all calls. -/
def package : String := "modules"

/-- The largest instance count. -/
def maxInstances : Nat := 2147483647

/-! ## Messages -/

/-- The argument was given. -/
def given : Value → Bool
  | .null => false
  | _ => true

/-- The fields that are sent. -/
def sent (fields : List (String × Value)) : List (String × Value) :=
  fields.filter fun (_, v) => given v

/-- The bytes of a request (`encode_request`). -/
def encodeRequest (fields : List (String × Value)) :
    Except Failure (List UInt8) :=
  (Wire.Datum.ofFields? (sent fields)).map Wire.encodeRecord

/-- Bytes that are no message. -/
def malformed : Failure :=
  .unexpected (some "Unexpected failure: malformed response")
    (.unworded .malformedMessage)

/-- The fields of a response (`decode_response`). -/
def decodeResponse (bytes : List UInt8) :
    Except Failure (List (String × Value)) :=
  match Wire.decodeRecord bytes with
  | some data => Wire.Datum.toFields? data
  | none => .error malformed

/-! ## Error codes -/

/-- The error codes that the remote service reports (`ErrorCode`). -/
inductive ErrorCode where
  | ok
  | invalidModule
  | invalidVersion
  | invalidInstances
  | transientError
  | unexpectedState
deriving DecidableEq, Repr

namespace ErrorCode

/-- All error codes. -/
def all : List ErrorCode :=
  [.ok, .invalidModule, .invalidVersion, .invalidInstances, .transientError,
    .unexpectedState]

/-- The number of an error code. -/
def number : ErrorCode → Int
  | .ok => 0
  | .invalidModule => 1
  | .invalidVersion => 2
  | .invalidInstances => 3
  | .transientError => 4
  | .unexpectedState => 5

/-- The name of an error code. -/
def name : ErrorCode → String
  | .ok => "OK"
  | .invalidModule => "INVALID_MODULE"
  | .invalidVersion => "INVALID_VERSION"
  | .invalidInstances => "INVALID_INSTANCES"
  | .transientError => "TRANSIENT_ERROR"
  | .unexpectedState => "UNEXPECTED_STATE"

/-- The error code that a reported value equals. -/
def ofValue? (reported : Value) : Option ErrorCode :=
  all.find? fun code => reported.equal (.int code.number)

end ErrorCode

/-! ## Calls -/

/-- A call on the legacy channel (`get_modules` to `get_hostname`). -/
inductive Command where
  | getModules
  | getVersions (moduleName : Value)
  | getDefaultVersion (moduleName : Value)
  | getNumInstances (moduleName version : Value)
  | setNumInstances (count moduleName version : Value)
  | startModule (moduleName version : Value)
  | stopModule (moduleName version : Value)
  | getHostname (moduleName version number : Value)

namespace Command

/-- The method that the channel calls. -/
def method : Command → String
  | .getModules => "GetModules"
  | .getVersions _ => "GetVersions"
  | .getDefaultVersion _ => "GetDefaultVersion"
  | .getNumInstances _ _ => "GetNumInstances"
  | .setNumInstances _ _ _ => "SetNumInstances"
  | .startModule _ _ => "StartModule"
  | .stopModule _ _ => "StopModule"
  | .getHostname _ _ _ => "GetHostname"

/-- The arguments by name, those that were not given included. -/
def fields : Command → List (String × Value)
  | .getModules => []
  | .getVersions moduleName => [("module", moduleName)]
  | .getDefaultVersion moduleName => [("module", moduleName)]
  | .getNumInstances moduleName version =>
      [("module", moduleName), ("version", version)]
  | .setNumInstances count moduleName version =>
    [("module", moduleName), ("version", version), ("instances", count)]
  | .startModule moduleName version =>
      [("module", moduleName), ("version", version)]
  | .stopModule moduleName version =>
      [("module", moduleName), ("version", version)]
  | .getHostname moduleName version number =>
    [("module", moduleName), ("version", version), ("instance", number)]

/-- The call starts or stops a version. -/
def switches : Command → Bool
  | .startModule _ _ => true
  | .stopModule _ _ => true
  | _ => false

/-! ## Responses -/

/-- The set in a field of a response, empty if the field is absent. -/
def membersIn (key : String) (response : List (String × Value)) :
    Except Failure (List Value) := do
  Value.distinct (← ((Value.find? key response).getD (.list [])).elements)

/-- A field of a response, an empty text if it is absent. -/
def textIn (key : String) (response : List (String × Value)) : Value :=
  (Value.find? key response).getD (.text "")

/-- A number that is no instance count. -/
def invalidCount (reported : Value) : Failure :=
  .plain .unexpected ("Invalid instances value: " ++ reported.quoted)

/-- The instance count that a value denotes: a whole number from zero up to the
largest. -/
def countOf (reported : Value) : Except Failure Int :=
  match reported.quantity? with
  | none => .error .wrongType
  | some quantity =>
    if quantity.less (.ofInt 0) ||
        (Quantity.ofInt maxInstances).less quantity then
      .error (invalidCount reported)
    else if quantity = .undefined then .error (.unworded .wrongValue)
    else
      match quantity.integer? with
      | some n => .ok n
      | none => .error (invalidCount reported)

/-- The instance count of a response, zero if it has none (`_instances`). -/
def countIn (response : List (String × Value)) : Except Failure Int :=
  countOf ((Value.find? "instances" response).getD (.int 0))

/-- The report of an action that was carried out. -/
def carriedOut (routine : String) : Answer :=
  .action (.success (.routine "appmodules.plumbing.legacy" routine))

/-- What the fields of a response mean. -/
def convert (command : Command) (response : List (String × Value)) :
    Future.Outcome :=
  match command with
  | .getModules => (membersIn "module" response).map .members
  | .getVersions _ => (membersIn "version" response).map .members
  | .getDefaultVersion _ => .ok (.value (textIn "version" response))
  | .getNumInstances _ _ => (countIn response).map fun n => .value (.int n)
  | .setNumInstances _ _ _ => .ok (carriedOut "set_num_instances")
  | .startModule _ _ => .ok (carriedOut "start_module")
  | .stopModule _ _ => .ok (carriedOut "stop_module")
  | .getHostname _ _ _ => .ok (.value (textIn "hostname" response))

/-- What the answer of the channel means (`convert` behind `decode_response`):
its bytes hold a response. -/
def convertAnswer (command : Command) : Answer → Future.Outcome
  | .value (.bytes bytes) => (decodeResponse bytes).bind command.convert
  | _ => .error .wrongType

/-! ## Reported failures -/

/-- The failure that a reported value with no meaning of its own amounts to. -/
def unknownError (reported : Value) : Failure :=
  .plain .modules ("Unknown error: \x27" ++ reported.shown ++ "\x27")

/-- The failure that a reported error code amounts to (`_convert_error`). -/
def reportedFailure (command : Command) (reported : Value) : Failure :=
  match ErrorCode.ofValue? reported with
  | none => unknownError reported
  | some .ok => unknownError reported
  | some .invalidModule => .plain .invalidModule "Unknown module"
  | some .invalidVersion => .plain .invalidVersion "Unknown module version"
  | some .invalidInstances => .plain .invalidInstances "Invalid instance"
  | some .transientError =>
    .plain .transient
      ("Transient error with method " ++ Text.quoted command.method)
  | some .unexpectedState =>
    if command.switches then
      .plain .alreadyInDesiredState
        ("Unexpected state for method " ++ command.method)
    else .plain .unexpectedState
      ("Unexpected state with method " ++ Text.quoted command.method)

/-- The failure of a call (`recover` within `call`): what the remote service
reported is given its meaning, and any other failure stays as it is. -/
def recover (command : Command) (failure : Failure) : Failure :=
  match failure.evidence with
  | .code reported => (command.reportedFailure reported).following failure
  | _ => failure

/-- How the outcome of a call is derived from that of the channel. -/
def derivation (command : Command) : Future.Derivation :=
  .transform (some command.convertAnswer)
    (some fun failure => .error (command.recover failure))

end Command

end Channel
end HostedModules
