/-
HostedModules.Wire.Encode — dynamic records as bytes.

A record is a message of entries, each with its key in field 1 and its value in
field 2, both always written.  A value is a message with one field, whose number
tells its form.

* `Wire.keyBefore` — the order of the entries: by the bytes of the keys, a key
  that continues another one first
* `Wire.encodeRecord` — the bytes of a record

Not modelled: that records of two gibibytes and more are refused.  Their lengths
are not read back either (`Wire.lengthLimit`).
-/
import HostedModules.Wire.Datum
import HostedModules.Wire.Field

namespace HostedModules
namespace Wire

/-! ## The order of entries -/

/-- The order of two keys, by their bytes.  Where one key continues the other,
the longer one goes first. -/
def keyBefore : List UInt8 → List UInt8 → Bool
  | [], _ => false
  | _ :: _, [] => true
  | a :: as, b :: bs => a < b || (a = b && keyBefore as bs)

/-- An entry put in front of the first one that does not go before it. -/
def insertEntry {α : Type} (key : String) (item : α) :
    List (String × α) → List (String × α)
  | [] => [(key, item)]
  | (k, x) :: rest =>
    if keyBefore (utf8 k) (utf8 key) then (k, x) :: insertEntry key item rest
    else (key, item) :: (k, x) :: rest

/-- The entries in the order of their keys. -/
def sortEntries {α : Type} : List (String × α) → List (String × α)
  | [] => []
  | (key, item) :: rest => insertEntry key item (sortEntries rest)

/-! ## Fields -/

/-- The tag of a field of the given number and form. -/
def tag (number form : Nat) : List UInt8 := Varint.encode (8 * number + form)

/-- A field that holds a number. -/
def varintField (number n : Nat) : List UInt8 := tag number 0 ++ Varint.encode n

/-- A field that holds the eight bytes of a double. -/
def doubleField (number : Nat) (x : Double) : List UInt8 :=
  tag number 1 ++ x.toBytes

/-- A field that holds some bytes, behind their count. -/
def bytesField (number : Nat) (bytes : List UInt8) : List UInt8 :=
  tag number 2 ++ Varint.encode bytes.length ++ bytes

/-- The entry of a record whose value is given by its bytes. -/
def entry (key : String) (value : List UInt8) : List UInt8 :=
  bytesField 1 (bytesField 1 (utf8 key) ++ bytesField 2 value)

/-! ## Values -/

mutual

/-- The bytes of a value. -/
def Datum.encode : Datum → List UInt8
  | .null => varintField 1 0
  | .number x => doubleField 2 x
  | .text s => bytesField 3 (utf8 s)
  | .bool b => varintField 4 (if b then 1 else 0)
  | .record fields =>
      bytesField 5 ((sortEntries (Datum.encodeFields fields)).flatMap
        fun (k, v) => entry k v)
  | .list items => bytesField 6 (Datum.encodeItems items)

/-- The bytes of the elements of a list. -/
def Datum.encodeItems : List Datum → List UInt8
  | [] => []
  | d :: rest => bytesField 1 d.encode ++ Datum.encodeItems rest

/-- The fields of a record with the bytes of their values. -/
def Datum.encodeFields : List (String × Datum) → List (String × List UInt8)
  | [] => []
  | (key, d) :: rest => (key, d.encode) :: Datum.encodeFields rest

end

/-- The bytes of a record. -/
def encodeRecord (fields : List (String × Datum)) : List UInt8 :=
  (sortEntries (Datum.encodeFields fields)).flatMap fun (key, value) =>
    entry key value

end Wire
end HostedModules
