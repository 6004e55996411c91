/-
HostedModules.Wire.Datum — the values that dynamic records hold on the wire.

* `Wire.Datum` — what a field of a dynamic record can be
* `Wire.Datum.ofValue?` — a value as a datum: numbers become doubles, byte
  strings have no counterpart
* `Wire.Datum.toValue?` — a datum as a value: an infinite or undefined number
  has no counterpart
* `Wire.utf8`, `Wire.text?` — texts and their bytes
-/
import HostedModules.Failure

namespace HostedModules
namespace Wire

/-- What a field of a dynamic record can be. -/
inductive Datum where
  | null
  | number (x : Double)
  | text (s : String)
  | bool (b : Bool)
  /-- Each key once. -/
  | record (fields : List (String × Datum))
  | list (items : List Datum)

instance : Inhabited Datum := ⟨.null⟩

/-! ## Texts and bytes -/

/-- The bytes of a text. -/
def utf8 (s : String) : List UInt8 := s.toUTF8.data.toList

/-- The text of some bytes, if they are well formed. -/
def text? (bytes : List UInt8) : Option String :=
  String.fromUTF8? ⟨bytes.toArray⟩

/-- The bytes of a text are well formed and give it back. -/
theorem text?_utf8 (s : String) : text? (utf8 s) = some s := by
  have valid : (ByteArray.mk (utf8 s).toArray).IsValidUTF8 := by
    simpa [utf8] using s.isValidUTF8
  rw [text?, String.fromUTF8?, dif_pos valid, Option.some_inj,
    ← String.toByteArray_inj]
  simp [utf8, String.fromUTF8]

/-! ## Values and data -/

/-- The datum put under a key: in place if the key is present, at the end if it
is new. -/
def putDatum (key : String) (datum : Datum) :
    List (String × Datum) → List (String × Datum)
  | [] => [(key, datum)]
  | (k, d) :: rest =>
      if k = key then (k, datum) :: rest else (k, d) :: putDatum key datum rest

namespace Datum

mutual

/-- A value as a datum.  Integers become the nearest doubles and must be within
their range. -/
def ofValue? : Value → Except Failure Datum
  | .null => .ok .null
  | .bool b => .ok (.bool b)
  | .int n =>
    match Double.ofInt? n with
    | some x => .ok (.number x)
    | none => .error (Failure.unworded .overflow)
  | .double x => .ok (.number x)
  | .text s => .ok (.text s)
  | .bytes _ => .error (Failure.unworded .wrongValue)
  | .list items => (ofItems? items).map .list
  | .record fields => (ofFields? fields).map .record

/-- The elements of a list as data. -/
def ofItems? : List Value → Except Failure (List Datum)
  | [] => .ok []
  | v :: rest => do
    let d ← ofValue? v
    let ds ← ofItems? rest
    pure (d :: ds)

/-- The fields of a record as data. -/
def ofFields? : List (String × Value) → Except Failure (List (String × Datum))
  | [] => .ok []
  | (key, v) :: rest => do
    let d ← ofValue? v
    let ds ← ofFields? rest
    pure ((key, d) :: ds)

end

mutual

/-- A datum as a value.  Numbers stay doubles and must be finite. -/
def toValue? : Datum → Except Failure Value
  | .null => .ok .null
  | .bool b => .ok (.bool b)
  | .number x =>
      if x.finite then .ok (.double x)
        else .error (Failure.unworded .wrongValue)
  | .text s => .ok (.text s)
  | .list items => (toItems? items).map .list
  | .record fields => (toFields? fields).map .record

/-- The elements of a list as values. -/
def toItems? : List Datum → Except Failure (List Value)
  | [] => .ok []
  | d :: rest => do
    let v ← toValue? d
    let vs ← toItems? rest
    pure (v :: vs)

/-- The fields of a record as values. -/
def toFields? : List (String × Datum) → Except Failure (List (String × Value))
  | [] => .ok []
  | (key, d) :: rest => do
    let v ← toValue? d
    let vs ← toFields? rest
    pure ((key, v) :: vs)

end

end Datum
end Wire
end HostedModules
