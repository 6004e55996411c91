/-
HostedModules.Context — which code is handling the current request.

* `Context` — the module, the version with its deployment suffix, and further
  attributes
* `Context.ofEnvironment` — the context that the hosting runtime declares
* `Bindings` — the contexts bound on one thread, the innermost first; a new
  thread has none

Not modelled: more than one thread.  A worker is given the names that it needs
before it starts.
-/
import HostedModules.Environment
import HostedModules.Value.Access

namespace HostedModules

/-- The identity of the code that is handling a request (`ExecutionContext`). -/
structure Context where
  moduleId : String
  /-- The version with its deployment suffix, `<version>.<suffix>`. -/
  versionId : String
  /-- Further attributes; `none` if none were given at all. -/
  attributes : Option (List (String × Value))

namespace Context

/-- The attribute that holds the number of the instance. -/
def instanceAttribute : String := "com.google.appengine.instance.id"

/-- The attributes, none if they were not given. -/
def attributeList (context : Context) : List (String × Value) :=
  context.attributes.getD []

/-- A text up to its first dot. -/
def beforeDot (text : String) : String :=
  String.ofList (text.toList.takeWhile (· ≠ '.'))

/-- The version without its deployment suffix. -/
def version (context : Context) : String := beforeDot context.versionId

/-- The first of two variables that is present. -/
def either? (env : Environment) (first second : String) : Option String :=
  (env.present? first).or (env.present? second)

/-- The context that the hosting runtime declares in the environment
(`from_environ`). -/
def ofEnvironment (env : Environment) : Except Failure Context :=
  match either? env "GAE_SERVICE" "CURRENT_MODULE_ID",
    either? env "CURRENT_VERSION_ID" "GAE_VERSION" with
  | some moduleId, some versionId =>
    let attributes := match either? env "GAE_INSTANCE" "INSTANCE_ID" with
      | some number => [(instanceAttribute, Value.text number)]
      | none => []
    .ok ⟨moduleId, versionId, some attributes⟩
  | _, _ => .error (.configuration
    "Runtime environment doesn't declare a module and version")

/-- A context as logs describe it. -/
def described (context : Context) : String :=
  let attributes := match context.attributes with
    | some fields => (Value.record fields).quoted
    | none => "mappingproxy(" ++ (Value.record []).quoted ++ ")"
  "ExecutionContext(module_id=" ++ Text.quoted context.moduleId ++
    ", version_id="
    ++ Text.quoted context.versionId ++ ", attributes=" ++ attributes ++ ")"

end Context

/-- The contexts bound on one thread, the innermost first. -/
abbrev Bindings := List Context

namespace Bindings

/-- The innermost context (`current`). -/
def current : Bindings → Except Failure Context
  | context :: _ => .ok context
  | [] => .error (.configuration
    "Operation not allowed outside of a bound execution context")

/-- The module that is handling the request (`current_module`). -/
def currentModule (bindings : Bindings) : Except Failure String :=
  bindings.current.map Context.moduleId

/-- The version that is handling the request, without its deployment suffix
(`current_version`). -/
def currentVersion (bindings : Bindings) : Except Failure String :=
  bindings.current.map Context.version

/-- The instance that is handling the request, if one has been assigned
(`current_instance_id`). -/
def currentInstance (bindings : Bindings) : Except Failure String := do
  let context ← bindings.current
  match (Value.find? Context.instanceAttribute context.attributeList).getD
    .null with
  | .null => .error (.plain .instanceUnavailable "Instance id unavailable")
  | number => number.spelled

end Bindings
end HostedModules
