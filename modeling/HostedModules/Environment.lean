/-
HostedModules.Environment — the settings that a process is started with.

Nothing is remembered between look-ups, so a setting may change between two
calls.

* `Environment.project` — the project, or a prefixed application id in its place
  (`get_project_id`)
* `Environment.optedIn` — whether calls go to the administrative service
  (`use_admin_api`)
-/
import HostedModules.Failure

namespace HostedModules

/-- The settings of a process, by name. -/
structure Environment where
  settings : List (String × String)

namespace Environment

/-- The value of a variable. -/
def find? (env : Environment) (name : String) : Option String :=
  (env.settings.find? fun (n, _) => n = name).map Prod.snd

/-- The value of a variable, an empty one counting as absent. -/
def present? (env : Environment) (name : String) : Option String :=
  (env.find? name).filter fun value => !value.isEmpty

/-- The environment with one variable set, or removed. -/
def update (env : Environment) (name : String)
    (value : Option String) : Environment :=
  let others := env.settings.filter fun (n, _) => n ≠ name
  match value with
  | some text => ⟨(name, text) :: others⟩
  | none => ⟨others⟩

/-- The variable that names the project. -/
def projectVariable : String := "GOOGLE_CLOUD_PROJECT"

/-- The variable that names the application, its project behind a mark. -/
def applicationVariable : String := "GAE_APPLICATION"

/-- The mark in front of the project in an application's name. -/
def applicationMark : List Char := ['s', '~']

/-- The variable that sends calls to the administrative service. -/
def optInVariable : String := "MODULES_USE_ADMIN_API"

/-- The rest of a text that opens with the given characters. -/
def afterMark? : List Char → List Char → Option (List Char)
  | [], rest => some rest
  | m :: mark, c :: rest => if m = c then afterMark? mark rest else none
  | _ :: _, [] => none

/-- The project behind the mark in an application's name; an empty one counts as
absent. -/
def projectOfApplication? (application : String) : Option String :=
  ((afterMark? applicationMark application.toList).map String.ofList).filter
    fun text => !text.isEmpty

/-- The project that the process belongs to (`get_project_id`). -/
def project (env : Environment) : Except Failure String :=
  match env.present? projectVariable with
  | some text => .ok text
  | none =>
    match (env.find? applicationVariable).bind projectOfApplication? with
    | some text => .ok text
    | none => .error (.configuration "Could not determine project ID")

/-- Calls go to the administrative service (`use_admin_api`).  The case of the
letters does not matter; no letter beyond ASCII has one of these four as its
lower case. -/
def optedIn (env : Environment) : Bool :=
  match env.find? optInVariable with
  | some text => text.toLower = "true"
  | none => false

end Environment
end HostedModules
