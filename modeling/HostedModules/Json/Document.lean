/-
HostedModules.Json.Document — a JSON text as one value.

The tokens are read from the left with the containers that are still open on a
stack, so the reader is a plain recursion on the tokens and meets faults in the
order of the text.

* `Json.Frame` — a container that is still open
* `Json.Expected` — what may come next
* `Json.depthLimit` — how deeply containers may be nested: each takes a frame of
  the stack
* `Json.parse` — the value of a text; a text with more behind its value is
  refused
-/
import HostedModules.Json.Token

namespace HostedModules
namespace Json

/-- A container that is still open. -/
inductive Frame where
  /-- A list and its elements so far, the last one first. -/
  | list (reversed : List Value)
  /-- A record, its fields so far, and the key whose value is being read. -/
  | record (fields : List (String × Value)) (key : String)

/-- What may come next. -/
inductive Expected where
  | value
  /-- The first element of a list, or its end. -/
  | valueOrEnd
  /-- The first key of a record, or its end. -/
  | keyOrEnd
  /-- Another key of a record that has these fields. -/
  | key (fields : List (String × Value))
  /-- The colon behind a key of a record that has these fields. -/
  | colon (fields : List (String × Value)) (key : String)
  /-- What follows a value. -/
  | after (v : Value)

/-- Why a text is refused. -/
inductive Fault where
  | malformed
  /-- An integer has more digits than are converted. -/
  | oversized
  /-- Containers are nested more deeply than is read. -/
  | tooDeep
deriving DecidableEq, Repr

/-- The value that begins and ends with this token. -/
def Token.scalar? : Token → Option Value
  | .string s => some (.text s)
  | .literal v => some v
  | _ => none

/-- How deeply containers may be nested. -/
def depthLimit : Nat := 985

/-- One more container inside the open ones. -/
def enter (stack inner : List Frame) (expected : Expected) :
    Except Fault (List Frame × Expected) :=
  if stack.length < depthLimit then .ok (inner, expected) else .error .tooDeep

/-- One token more. -/
def step (token : Token) :
    List Frame → Expected → Except Fault (List Frame × Expected)
  | stack, .value => begin token stack
  | stack, .valueOrEnd =>
    match token, stack with
    | .closeList, .list reversed :: outer =>
        .ok (outer, .after (.list reversed.reverse))
    | _, _ => begin token stack
  | stack, .keyOrEnd =>
    match token with
    | .string k => .ok (stack, .colon [] k)
    | .closeRecord => .ok (stack, .after (.record []))
    | _ => .error .malformed
  | stack, .key fields =>
    match token with
    | .string k => .ok (stack, .colon fields k)
    | _ => .error .malformed
  | stack, .colon fields k =>
    match token with
    | .colon => .ok (.record fields k :: stack, .value)
    | _ => .error .malformed
  | stack, .after v =>
    match token, stack with
    | .comma, .list reversed :: outer =>
        .ok (.list (v :: reversed) :: outer, .value)
    | .closeList, .list reversed :: outer =>
        .ok (outer, .after (.list (v :: reversed).reverse))
    | .comma, .record fields k :: outer =>
        .ok (outer, .key (Value.put k v fields))
    | .closeRecord, .record fields k :: outer =>
        .ok (outer, .after (.record (Value.put k v fields)))
    | _, _ => .error .malformed
where
  /-- A token where a value must begin. -/
  begin (token : Token) (stack : List Frame) :
    Except Fault (List Frame × Expected) :=
    match token with
    | .openList => enter stack (.list [] :: stack) .valueOrEnd
    | .openRecord => enter stack stack .keyOrEnd
    | .oversized => .error .oversized
    | token =>
      match token.scalar? with
      | some v => .ok (stack, .after v)
      | none => .error .malformed

/-- Go on with the containers that are open and what may come next. -/
def read : List Frame → Expected → List Token → Except Fault Value
  | [], .after v, [] => .ok v
  | _, _, [] => .error .malformed
  | stack, expected, token :: rest =>
    match step token stack expected with
    | .ok (stack, expected) => read stack expected rest
    | .error fault => .error fault

/-- The value of a text. -/
def parse (text : String) : Except Fault Value :=
  read [] .value (tokens text.toList)

end Json
end HostedModules
