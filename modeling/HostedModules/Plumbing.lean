/-
HostedModules.Plumbing — small helpers of both backends.

* `Hostname.join` — the parts of a hostname with dots between them, empty parts
  left out (`join_hostname`)
* `Instance.parse` — the number of an instance that an argument denotes, if it
  denotes one that is not negative (`parse_instance`)
* `Traffic.selectDefault` — the version with all of the traffic if there is one,
  else the one with the most, ties going to the name that comes first by code
  points (`select_default_version`)
-/
import HostedModules.Failure

namespace HostedModules

namespace Hostname

/-- The texts among some values; anything else is refused. -/
def texts : List Value → Except Failure (List String)
  | [] => .ok []
  | .text s :: rest => (texts rest).map (s :: ·)
  | _ :: _ => .error Failure.wrongType

/-- The parts with dots between them (`join_hostname`).  Parts that count as
absent are left out. -/
def join (parts : List Value) : Except Failure String :=
  (texts (parts.filter Value.truthy)).map (String.intercalate ".")

end Hostname

namespace Instance

/-- Not a negative number. -/
def checkSign (n : Int) : Except Failure Nat :=
  if n < 0 then
    .error (.plain .argument
      "The specified instance must be an integer greater than or equal to 0")
  else .ok n.toNat

/-- The number of an instance, given as a number or as its numeral
(`parse_instance`). -/
def parse (argument : Value) : Except Failure Nat :=
  match argument with
  | .int n => checkSign n
  | .null => .error (.plain .argument "Instance cannot be empty")
  | .text s =>
    if s.isEmpty then .error (.plain .argument "Instance cannot be empty")
    else
      match Numeral.read? s.toList with
      | none =>
        .error (.plain .argument
          ("The specified instance ID must be an integer: " ++ argument.quoted))
      | some (negative, digits) =>
        if Numeral.digitLimit < digits.length then
          .error (.unworded .wrongValue)
        else checkSign (Numeral.signed negative (Numeral.ofDigits digits))
  | _ => .error (.misfit "Instance must be an int or str, not " argument)

end Instance

namespace Traffic

/-- The weight of a version that receives all of the traffic. -/
def whole : Quantity := .ofInt 1

/-- The weight that every candidate is first compared with. -/
def floor : Quantity := .ofInt (-1)

/-- Go on with the best version so far and its weight.

A weight equal to the best so far is decided by the names, and before any
version has been chosen there is no name to compare with. -/
def selectFrom :
    Option String → Quantity → List (String × Value) →
      Except Failure (Option String)
  | best, _, [] => .ok best
  | best, highest, (name, weight) :: rest =>
    match weight.quantity? with
    | none => .error Failure.wrongType
    | some quantity =>
      if quantity.equal whole then .ok (some name)
      else if highest.less quantity then selectFrom (some name) quantity rest
      else if quantity.equal highest then
        match best with
        | none => .error Failure.wrongType
        | some current =>
          if name < current then selectFrom (some name) quantity rest
          else selectFrom best highest rest
      else selectFrom best highest rest

/-- The default version of a split into version names and weights
(`select_default_version`); none for an empty split. -/
def selectDefault (allocations : List (String × Value)) :
    Except Failure (Option String) :=
  selectFrom none floor allocations

/-- The default version of a split as it arrives; none for a split that counts
as absent. -/
def selectDefaultOf (allocations : Value) : Except Failure (Option String) :=
  if allocations.truthy then
    match allocations with
    | .record fields => selectDefault fields
    | _ => .error Failure.noAttribute
  else .ok none

end Traffic

end HostedModules
