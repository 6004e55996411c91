/-
HostedModules.Wire.Decode — bytes as dynamic records.

Fields that are unknown, or known under another form, are passed over; an entry
of a record that holds any such field is dropped as a whole.  Where a message
repeats a field, the last one counts, except that lists and records are
continued as long as the value still is one.

* `Wire.messageDepth` — how deeply messages may be nested
* `Wire.decodeRecord` — the record of some bytes, if they are well formed
-/
import HostedModules.Wire.Datum
import HostedModules.Wire.Field

namespace HostedModules
namespace Wire

/-- How deeply messages may be nested in a record; the entry of a record counts
as a message. -/
def messageDepth : Nat := 100

/-- Go through the fields of a message in their order.  Below it `depth` more
levels are allowed. -/
def foldFields {β : Type} (depth : Nat) (step : β → Field → Option β)
    (start : β) (bytes : List UInt8) :
    Option β :=
  (scan depth [] bytes).bind fun fields => fields.foldlM step start

/-- An entry of a record as far as it has been read. -/
structure PartialEntry where
  key : String
  datum : Datum
  /-- Nothing but keys and values has been met. -/
  clean : Bool

/-- An entry before its first field. -/
def PartialEntry.empty : PartialEntry := ⟨"", .null, true⟩

/-- A record with the entry, unless the entry held something else. -/
def PartialEntry.into (e : PartialEntry) (fields : List (String × Datum)) :
    List (String × Datum) :=
  if e.clean then putDatum e.key e.datum fields else fields

/-- A value continued by a field that holds no message. -/
def scalarField (sofar : Datum) : Field → Option Datum
  | ⟨1, .varint _⟩ => some .null
  | ⟨2, .fixed64 payload⟩ => some (.number (Double.ofBytes payload))
  | ⟨3, .delimited payload⟩ => (text? payload).map .text
  | ⟨4, .varint n⟩ => some (.bool (n ≠ 0))
  | _ => some sofar

/-- The fields of a value that already is a record. -/
def Datum.fields : Datum → List (String × Datum)
  | .record fields => fields
  | _ => []

/-- The elements of a value that already is a list. -/
def Datum.items : Datum → List Datum
  | .list items => items
  | _ => []

mutual

/-- A record continued by a message.  The first argument counts the levels that
are left, this one included. -/
def recordFrom :
    Nat → List (String × Datum) → List UInt8 → Option (List (String × Datum))
  | 0, _, _ => none
  | depth + 1, start, bytes =>
    foldFields depth (fun fields f =>
      match f with
      | ⟨1, .delimited payload⟩ =>
          (entryFrom depth payload).map fun e => e.into fields
      | _ => some fields) start bytes

/-- An entry of a record. -/
def entryFrom : Nat → List UInt8 → Option PartialEntry
  | 0, _ => none
  | depth + 1, bytes =>
    foldFields depth (fun e f =>
      match f with
      | ⟨1, .delimited payload⟩ => (text? payload).map fun key => { e with key }
      | ⟨2, .delimited payload⟩ =>
          (datumFrom depth e.datum payload).map fun datum => { e with datum }
      | _ => some { e with clean := false }) PartialEntry.empty bytes

/-- A value continued by a message. -/
def datumFrom : Nat → Datum → List UInt8 → Option Datum
  | 0, _, _ => none
  | depth + 1, start, bytes =>
    foldFields depth (fun datum f =>
      match f with
      | ⟨5, .delimited payload⟩ =>
          (recordFrom depth datum.fields payload).map .record
      | ⟨6, .delimited payload⟩ =>
          (listFrom depth datum.items payload).map .list
      | f => scalarField datum f) start bytes

/-- A list continued by a message. -/
def listFrom : Nat → List Datum → List UInt8 → Option (List Datum)
  | 0, _, _ => none
  | depth + 1, start, bytes =>
    foldFields depth (fun items f =>
      match f with
      | ⟨1, .delimited payload⟩ =>
          (datumFrom depth .null payload).map fun d => items ++ [d]
      | _ => some items) start bytes

end

/-- The record of some bytes; none if the bytes are not well formed. -/
def decodeRecord (bytes : List UInt8) : Option (List (String × Datum)) :=
  recordFrom (messageDepth + 1) [] bytes

end Wire
end HostedModules
