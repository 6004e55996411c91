/-
HostedModules.Value — the loosely typed values that requests, replies and
arguments are made of.

Two remote services are spoken to, one in JSON and one in dynamic binary
records, and neither promises the shape of its replies.  A `Value` is whatever
may arrive.

* `Value.truthy` — empty and zero values count as absent
* `Value.equal` — equality in depth, numbers by exact quantity across their
  kinds
* `Value.atMost?` — the order of numbers, of texts and of lists; all else is
  unordered
* `Value.put` — a field of a record set, in place if the key is there and at the
  end if it is new
* `Value.quoted`, `Value.shown` — a value as messages quote it, and as plain
  text
* `Value.writable` — a value has a text, unless one of its integers is too long
  to be written
-/
import HostedModules.Number.Decimal
import HostedModules.Text

namespace HostedModules

/-- A loosely typed value. -/
inductive Value where
  | null
  | bool (b : Bool)
  | int (n : Int)
  | double (x : Double)
  | text (s : String)
  | bytes (bs : List UInt8)
  | list (items : List Value)
  /-- Keys in the order of their arrival. -/
  | record (fields : List (String × Value))

namespace Value

instance : Inhabited Value := ⟨.null⟩

/-! ## Fields -/

/-- The value under a key. -/
def find? (key : String) : List (String × Value) → Option Value
  | [] => none
  | (k, v) :: rest => if k = key then some v else find? key rest

/-! ## Comparisons -/

/-- The exact quantity of a number or truth value; true counts as one. -/
def quantity? : Value → Option Quantity
  | .bool b => some (.ofInt (if b then 1 else 0))
  | .int n => some (.ofInt n)
  | .double x => some x.reading
  | _ => none

/-- Empty values and zeros count as absent, everything else as present. -/
def truthy : Value → Bool
  | .null => false
  | .bool b => b
  | .int n => n ≠ 0
  | .double x => !x.isZero
  | .text s => !s.isEmpty
  | .bytes bs => !bs.isEmpty
  | .list items => !items.isEmpty
  | .record fields => !fields.isEmpty

/-- Both are numbers or truth values, of one exact quantity. -/
def sameQuantity (a b : Value) : Bool :=
  match a.quantity?, b.quantity? with
  | some p, some q => p.equal q
  | _, _ => false

mutual

/-- Equality in depth.  The order of a record's keys does not matter. -/
def equal : Value → Value → Bool
  | .null, .null => true
  | .text s, .text t => s == t
  | .bytes s, .bytes t => s == t
  | .list items, .list others => equalItems items others
  | .record fields, .record others =>
      fields.length == others.length && heldBy others fields
  | a, b => a.sameQuantity b

/-- Two lists have as many elements, equal in pairs. -/
def equalItems : List Value → List Value → Bool
  | [], [] => true
  | v :: rest, w :: others => v.equal w && equalItems rest others
  | _, _ => false

/-- A record holds equal values under all of these keys. -/
def heldBy (record : List (String × Value)) : List (String × Value) → Bool
  | [] => true
  | (key, v) :: rest =>
      ((find? key record).any fun w => v.equal w) && heldBy record rest

end

mutual

/-- The order "at most": of numbers by exact quantity, of texts by code points,
of lists by the first elements that differ.  Any other pair is unordered. -/
def atMost? : Value → Value → Option Bool
  | .text s, .text t => some (decide (s ≤ t))
  | .list items, .list others => itemsAtMost? items others
  | a, b => do
    let p ← a.quantity?
    let q ← b.quantity?
    pure (p.less q || p.equal q)

/-- The order of two lists.  A list is at most any list that continues it. -/
def itemsAtMost? : List Value → List Value → Option Bool
  | [], _ => some true
  | _ :: _, [] => some false
  | v :: rest, w :: others =>
      if v.equal w then itemsAtMost? rest others else v.atMost? w

end

/-! ## Records -/

/-- A record with one field set: in place if the key is present, at the end if
it is new. -/
def put (key : String) (value : Value) :
    List (String × Value) → List (String × Value)
  | [] => [(key, value)]
  | (k, v) :: rest =>
      if k = key then (k, value) :: rest else (k, v) :: put key value rest

/-- The fields in the order given, a repeated key keeping its first place and
its last value. -/
def ofPairs (pairs : List (String × Value)) : List (String × Value) :=
  pairs.foldl (fun fields (key, value) => put key value fields) []

/-- What was put under a key is found under it. -/
theorem find?_put_self (key : String) (value : Value)
    (fields : List (String × Value)) :
    find? key (put key value fields) = some value := by
  induction fields with
  | nil => simp [put, find?]
  | cons field rest ih =>
    obtain ⟨k, v⟩ := field
    by_cases h : k = key <;> simp [put, find?, h, ih]

/-- Putting a value under one key leaves every other key alone. -/
theorem find?_put_of_ne {key other : String} (h : other ≠ key) (value : Value)
    (fields : List (String × Value)) :
    find? other (put key value fields) = find? other fields := by
  induction fields with
  | nil => simp [put, find?, Ne.symm h]
  | cons field rest ih =>
    obtain ⟨k, v⟩ := field
    by_cases hk : k = key
    · subst hk; simp [put, find?, Ne.symm h]
    · simp [put, find?, hk, ih]

/-! ## Texts -/

mutual

/-- A value as messages quote it: texts between quotes, lists in brackets,
records in braces. -/
def quotedChars : Value → List Char
  | .null => "None".toList
  | .bool true => "True".toList
  | .bool false => "False".toList
  | .int n => (toString n).toList
  | .double x => x.decimalText.toList
  | .text s => (Text.quoted s).toList
  | .bytes bs => (Text.quotedBytes bs).toList
  | .list items => '[' :: quotedItems items ++ [']']
  | .record fields => '\x7b' :: quotedFields fields ++ ['\x7d']

/-- The elements of a list, with a comma and a space between them. -/
def quotedItems : List Value → List Char
  | [] => []
  | [v] => v.quotedChars
  | v :: w :: rest => v.quotedChars ++ ',' :: ' ' :: quotedItems (w :: rest)

/-- The fields of a record, with a comma and a space between them. -/
def quotedFields : List (String × Value) → List Char
  | [] => []
  | [(k, v)] => (Text.quoted k).toList ++ ':' :: ' ' :: v.quotedChars
  | (k, v) :: f :: rest =>
    (Text.quoted k).toList ++ ':' :: ' ' :: v.quotedChars ++ ',' :: ' ' ::
      quotedFields (f :: rest)

end

/-- A value as messages quote it. -/
def quoted (v : Value) : String := String.ofList v.quotedChars

/-- A value as plain text: a text is itself, anything else is quoted. -/
def shown : Value → String
  | .text s => s
  | v => v.quoted

mutual

/-- No integer in the value has more digits than are written. -/
def writable : Value → Bool
  | .int n => decide (n.natAbs < Numeral.firstOversized)
  | .list items => writableItems items
  | .record fields => writableFields fields
  | _ => true

/-- No integer in any of the values has more digits than are written. -/
def writableItems : List Value → Bool
  | [] => true
  | v :: rest => v.writable && writableItems rest

/-- No integer in any of the fields has more digits than are written. -/
def writableFields : List (String × Value) → Bool
  | [] => true
  | (_, v) :: rest => v.writable && writableFields rest

end

end Value
end HostedModules
