/-
HostedModules.ActionResult — what an action reports.

* `ActionResult.State` — the action was carried out, or nothing had to change
* `ActionResult` — the state, a value if there is one, and the routine that
  reports
* `Answer` — what a call can end with

The routine that reports is named by whoever makes the result; it is not looked
up on the stack.
-/
import HostedModules.Failure

namespace HostedModules
namespace ActionResult

/-- Whether an action happened (`State`). -/
inductive State where
  /-- Nothing had to be done: the request agrees with the present state. -/
  | unchanged
  /-- The action was carried out. -/
  | success
deriving DecidableEq, Repr

namespace State

/-- The name of a state. -/
def name : State → String
  | .unchanged => "unchanged"
  | .success => "success"

/-- The number of a state. -/
def number : State → Nat
  | .unchanged => 0
  | .success => 1

/-- A state holds as true if something changed. -/
def changed : State → Bool
  | .unchanged => false
  | .success => true

end State

/-- Who reports. -/
inductive Reporter where
  /-- A routine of a module. -/
  | routine (moduleName name : String)
  /-- A routine that its module does not list. -/
  | unlisted (name : String)
deriving DecidableEq, Repr

/-- A reporter as texts name it. -/
def Reporter.label : Reporter → String
  | .routine moduleName name => moduleName ++ ":" ++ name
  | .unlisted name => name

end ActionResult

/-- What an action reports (`Result`). -/
structure ActionResult where
  state : ActionResult.State
  /-- The value, if one was set. -/
  value : Option Value
  reporter : ActionResult.Reporter

namespace ActionResult

/-- A value as it stands in a text that ends after it; an unset one leaves no
trace. -/
def valueText (separator : String) (result : ActionResult) : String :=
  match result.value with
  | some value => separator ++ value.quoted
  | none => ""

/-- The result in one line: who reports, the state, and the value. -/
def shown (result : ActionResult) : String :=
  result.reporter.label ++ ": " ++ result.state.name ++ result.valueText " "

/-- The result as messages quote it. -/
def quoted (result : ActionResult) : String :=
  "Result(State." ++ result.state.name ++ result.valueText ", " ++ ")"

/-- How an unset value is named. -/
def unsetName : String := "UNSET"

/-- Something changed, without a value to report. -/
def success (reporter : Reporter) : ActionResult := ⟨.success, none, reporter⟩

/-- Nothing had to change. -/
def unchanged (reporter : Reporter) : ActionResult :=
  ⟨.unchanged, none, reporter⟩

end ActionResult

/-- What a call can end with. -/
inductive Answer where
  | value (v : Value)
  /-- A set of values, each once. -/
  | members (vs : List Value)
  | action (result : ActionResult)

end HostedModules
