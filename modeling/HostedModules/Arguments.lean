/-
HostedModules.Arguments — arguments given by place and by name.

* `Parameter` — the name of an argument, and its value if it may be left out
* `Signature` — what can be asked for by name, with its parameters
* `Signature.apply` — what comes of some arguments, or a refusal if they do not
  fit the parameters
-/
import HostedModules.Failure

namespace HostedModules

/-- A parameter of an operation. -/
structure Parameter where
  name : String
  /-- The value of an argument that is left out; `none` if it must be given. -/
  otherwise : Option Value

namespace Parameter

/-- A parameter that must be given. -/
def required (name : String) : Parameter := ⟨name, none⟩

/-- A parameter that may be left out. -/
def optional (name : String) : Parameter := ⟨name, some .null⟩

/-- The parameters for a module and a version. -/
def target : List Parameter := [optional "module", optional "version"]

end Parameter

namespace Arguments

/-- A result that takes one value for each of some parameters. -/
def Taking (α : Type) : List Parameter → Type
  | [] => α
  | _ :: rest => Value → Taking α rest

/-- The result for the arguments that are given by name. -/
def fillNamed {α : Type} (named : List (String × Value)) :
    (parameters : List Parameter) → Taking α parameters → Except Failure α
  | [], result => .ok result
  | parameter :: rest, make =>
    match (Value.find? parameter.name named).or parameter.otherwise with
    | some value => fillNamed named rest (make value)
    | none => .error .wrongType

/-- The result for all arguments.  Those by place come first; one too many, a
name that no remaining parameter has, and a missing argument are refused. -/
def fill {α : Type} (named : List (String × Value)) :
    (parameters : List Parameter) → Taking α parameters → List Value →
      Except Failure α
  | _ :: rest, make, value :: placed => fill named rest (make value) placed
  | [], _, _ :: _ => .error .wrongType
  | parameters, make, [] =>
    if named.all fun (name, _) => parameters.any fun parameter =>
      parameter.name = name then
      fillNamed named parameters make
    else .error .wrongType

end Arguments

/-- What can be asked for by name: its parameters, and what comes of a value for
each of them. -/
structure Signature (α : Type) where
  parameters : List Parameter
  make : Arguments.Taking α parameters

/-- What comes of the arguments by place and by name, if there is something of
the name at all. -/
def Signature.apply {α : Type} (signature : Option (Signature α))
    (placed : List Value) (named : List (String × Value)) : Except Failure α :=
  match signature with
  | none => .error .noAttribute
  | some signature =>
      Arguments.fill named signature.parameters signature.make placed

end HostedModules
