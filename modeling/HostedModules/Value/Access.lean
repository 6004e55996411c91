/-
HostedModules.Value.Access — taking loosely typed values apart.

Replies are read as they come: what a step finds is used if the step makes sense
for it, and fails if not.

* `Value.get` — a field of a record, `null` if it is absent
* `Value.item` — a field of a record, which must be there
* `Value.elements` — what a loop over a value meets
* `Value.distinct` — the members of a set, each once, in the order of their
  first arrival
* `Value.spelled` — the plain text of a value, if it has one
-/
import HostedModules.Failure

namespace HostedModules
namespace Value

/-- The field of a record, `null` if it is absent.  Only records have fields. -/
def get (v : Value) (key : String) : Except Failure Value :=
  match v with
  | .record fields => .ok ((find? key fields).getD .null)
  | _ => .error Failure.noAttribute

/-- The field of a record, which must be present. -/
def item (v : Value) (key : String) : Except Failure Value :=
  match v with
  | .record fields =>
    match find? key fields with
    | some value => .ok value
    | none => .error (Failure.missingKey key)
  | _ => .error Failure.wrongType

/-- The value itself if it counts as present, else the alternative. -/
def orElse (v alternative : Value) : Value :=
  if v.truthy then v else alternative

/-- What a loop over a value meets: the elements of a list, the characters of a
text, the keys of a record.  Other values cannot be looped over. -/
def elements : Value → Except Failure (List Value)
  | .list items => .ok items
  | .text s => .ok (s.toList.map fun c => .text c.toString)
  | .record fields => .ok (fields.map fun (key, _) => .text key)
  | _ => .error Failure.wrongType

/-- The plain text of a value.  One with an integer that is too long to be
written has none. -/
def spelled (v : Value) : Except Failure String :=
  if v.writable then .ok v.shown else .error (.unworded .wrongValue)

/-! ## Sets -/

/-- The value may be a member of a set. -/
def settable : Value → Bool
  | .list _ => false
  | .record _ => false
  | _ => true

/-- Two values are one member: they are equal, or neither is a number at all. -/
def sameMember (a b : Value) : Bool :=
  a.equal b || match a, b with
    | .double x, .double y => x.reading = .undefined && y.reading = .undefined
    | _, _ => false

/-- The set already has this member. -/
def hasMember (members : List Value) (v : Value) : Bool :=
  members.any (sameMember v)

/-- One more member, unless the set has it. -/
def addMember (members : List Value) (v : Value) : List Value :=
  if hasMember members v then members else members ++ [v]

/-- The set of the listed values: the first of several equal ones stays.  Lists
and records are refused. -/
def distinctFrom (members : List Value) :
    List Value → Except Failure (List Value)
  | [] => .ok members
  | v :: rest =>
      if v.settable then distinctFrom (addMember members v) rest
        else .error Failure.wrongType

/-- The set of the listed values. -/
def distinct (values : List Value) : Except Failure (List Value) :=
  distinctFrom [] values

end Value
end HostedModules
