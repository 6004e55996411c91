/-
HostedModules.Proofs.Wire.RoundTrip — records are read back as they were
written.

The entries of a record come back in the order in which they are written, which
is the order of their keys.

* `Datum.sorted` — a datum with all records in that order
* `Datum.levels` — how many messages a datum nests
* `Datum.Keyed` — every record of a datum has each key once
* `Datum.datumFrom_encode` — a value, by induction on it
* `decodeRecord_encodeRecord` — a whole record
-/
import HostedModules.Proofs.Number.Exact
import HostedModules.Proofs.Wire.Message
import HostedModules.Proofs.Wire.Order

namespace HostedModules
namespace Wire

namespace Datum

mutual

/-- The datum with the entries of all records in the order in which they are
written. -/
def sorted : Datum → Datum
  | .list items => .list (sortedItems items)
  | .record fields => .record (sortEntries (sortedFields fields))
  | datum => datum

/-- The elements of a list, with the entries of all records in order. -/
def sortedItems : List Datum → List Datum
  | [] => []
  | datum :: rest => datum.sorted :: sortedItems rest

/-- The fields of a record as they stand, with the entries of all records below
them in order. -/
def sortedFields : List (String × Datum) → List (String × Datum)
  | [] => []
  | (key, datum) :: rest => (key, datum.sorted) :: sortedFields rest

end

mutual

/-- How many messages the datum nests: a list or record is a message of its own
in that of the value, and so is each entry of a record. -/
def levels : Datum → Nat
  | .list items => 2 + levelsOfItems items
  | .record fields => 2 + levelsOfFields fields
  | _ => 1

/-- How many messages the elements of a list nest. -/
def levelsOfItems : List Datum → Nat
  | [] => 0
  | datum :: rest => max datum.levels (levelsOfItems rest)

/-- How many messages the entries of a record nest. -/
def levelsOfFields : List (String × Datum) → Nat
  | [] => 0
  | (_, datum) :: rest => max (1 + datum.levels) (levelsOfFields rest)

end

mutual

/-- Every record of the datum has each key once. -/
def Keyed : Datum → Prop
  | .list items => KeyedItems items
  | .record fields => (fields.map Prod.fst).Nodup ∧ KeyedFields fields
  | _ => True

/-- Every record of the elements has each key once. -/
def KeyedItems : List Datum → Prop
  | [] => True
  | datum :: rest => datum.Keyed ∧ KeyedItems rest

/-- Every record below the fields has each key once. -/
def KeyedFields : List (String × Datum) → Prop
  | [] => True
  | (_, datum) :: rest => datum.Keyed ∧ KeyedFields rest

end

theorem sortedFields_eq_map (fields : List (String × Datum)) :
    sortedFields fields = fields.map (Prod.map id sorted) := by
  induction fields with
  | nil => rfl
  | cons field rest ih =>
      rw [sortedFields, ih]
      rfl

theorem encodeFields_eq_map (fields : List (String × Datum)) :
    encodeFields fields = fields.map (Prod.map id encode) := by
  induction fields with
  | nil => rfl
  | cons field rest ih =>
      rw [encodeFields, ih]
      rfl

theorem encodeFields_keys (fields : List (String × Datum)) :
    (encodeFields fields).map Prod.fst = fields.map Prod.fst := by
  rw [encodeFields_eq_map, List.map_map]
  rfl

theorem encodeFields_append (fields others : List (String × Datum)) :
    encodeFields (fields ++ others) = encodeFields fields ++
      encodeFields others := by
  simp only [encodeFields_eq_map, List.map_append]

end Datum

/-! ## Records -/

theorem putDatum_of_not_mem {key : String} {datum : Datum}
    {fields : List (String × Datum)} (h : key ∉ fields.map Prod.fst) :
    putDatum key datum fields = fields ++ [(key, datum)] := by
  induction fields with
  | nil => rfl
  | cons field rest ih =>
      obtain ⟨k, d⟩ := field
      have hne : k ≠ key := fun heq =>
        h (by rw [← heq]; exact List.mem_cons_self)
      have hrest : key ∉ rest.map Prod.fst := fun hmem =>
        h (List.mem_cons_of_mem _ hmem)
      rw [putDatum, if_neg hne, ih hrest, List.cons_append]

/-- The message of an entry: its key, and the bytes of its value. -/
def entryMessage (key : String) (value : List UInt8) : List UInt8 :=
  bytesField 1 (utf8 key) ++ bytesField 2 value

theorem entry_eq (key : String) (value : List UInt8) :
    entry key value = bytesField 1 (entryMessage key value) := rfl

theorem length_le_entry (key : String) (value : List UInt8) :
    (utf8 key).length ≤ (entry key value).length ∧
      value.length ≤ (entry key value).length ∧
      (entryMessage key value).length ≤ (entry key value).length := by
  have hmessage := length_le_bytesField 1 (entryMessage key value)
  have hkey := length_le_bytesField 1 (utf8 key)
  have hvalue := length_le_bytesField 2 value
  have hsum : (entryMessage key value).length =
      (bytesField 1 (utf8 key)).length + (bytesField 2 value).length :=
    List.length_append
  rw [entry_eq]
  omega

/-- An entry is read back, if its value is. -/
theorem entryFrom_entryMessage {depth : Nat} {key : String} {value : List UInt8}
    {datum : Datum} (hlen : (entry key value).length < lengthLimit)
    (hvalue : datumFrom depth .null value = some datum) :
    entryFrom (depth + 1) (entryMessage key value) = some ⟨key, datum, true⟩ := by
  obtain ⟨hk, hv, -⟩ := length_le_entry key value
  have hfirst :=
    takeItem_bytesField (bytesField 2 value) (show 1 < 16 by decide)
      (Nat.lt_of_le_of_lt hk hlen)
  have hsecond :=
    takeItem_bytesField [] (show 2 < 16 by decide) (Nat.lt_of_le_of_lt hv hlen)
  rw [List.append_nil] at hsecond
  rw [entryFrom, entryMessage, foldFields_field hfirst (Nat.succ_ne_zero 0)]
  simp only [PartialEntry.empty, text?_utf8, Option.map_some, Option.bind_some]
  rw [foldFields_single hsecond (Nat.succ_ne_zero 1)]
  simp only [hvalue, Option.map_some]

/-- A record is continued by its entries, in the order in which they are
written. -/
theorem recordFrom_entries {depth : Nat} :
    ∀ (entries sofar : List (String × Datum)),
      ((sofar ++ entries).map Prod.fst).Nodup →
      (∀ field ∈ entries, (entry field.1 field.2.encode).length < lengthLimit ∧
        entryFrom depth (entryMessage field.1 field.2.encode) =
          some ⟨field.1, field.2.sorted, true⟩) →
      recordFrom (depth + 1) sofar
        (entries.flatMap fun field => entry field.1 field.2.encode) =
        some (sofar ++ entries.map (Prod.map id Datum.sorted))
  | [], sofar, _, _ => by
      rw [recordFrom, List.flatMap_nil, foldFields_nil, List.map_nil,
        List.append_nil]
  | (key, datum) :: rest, sofar, hnodup, hentries => by
      obtain ⟨hlen, hentry⟩ := hentries (key, datum) List.mem_cons_self
      have hmessage := (length_le_entry key datum.encode).2.2
      have hitem := takeItem_bytesField
        (rest.flatMap fun field => entry field.1 field.2.encode)
        (show 1 < 16 by decide) (Nat.lt_of_le_of_lt hmessage hlen)
      have hfree : key ∉ sofar.map Prod.fst := by
        rw [List.map_append, List.nodup_append] at hnodup
        exact fun hmem => hnodup.2.2 key hmem key List.mem_cons_self rfl
      have hrest := recordFrom_entries rest (sofar ++ [(key, datum.sorted)])
        (by simpa using hnodup) fun field hmem =>
          hentries field (List.mem_cons_of_mem _ hmem)
      rw [recordFrom] at hrest ⊢
      rw [List.flatMap_cons, entry_eq,
        foldFields_field hitem (Nat.succ_ne_zero 0)]
      have hinto : (⟨key, datum.sorted, true⟩ : PartialEntry).into sofar =
          sofar ++ [(key, datum.sorted)] :=
        putDatum_of_not_mem hfree
      simp only [hentry, Option.map_some, Option.bind_some, hinto]
      rw [hrest, List.append_assoc]
      rfl

theorem encodeRecord_eq (fields : List (String × Datum)) :
    encodeRecord fields = (sortEntries fields).flatMap fun field =>
      entry field.1 field.2.encode := by
  rw [encodeRecord, Datum.encodeFields_eq_map, sortEntries_map,
    List.flatMap_map]
  rfl

/-- An entry is no longer than its record. -/
theorem length_entry_le {fields : List (String × Datum)}
    {field : String × Datum} (h : field ∈ fields) :
    (entry field.1 field.2.encode).length ≤ (encodeRecord fields).length := by
  obtain ⟨before, after, hsplit⟩ :=
    List.append_of_mem ((sortEntries_perm fields).mem_iff.2 h)
  rw [encodeRecord_eq, hsplit, List.flatMap_append, List.flatMap_cons,
    List.length_append, List.length_append]
  omega

/-- A record is read back with its entries in order, if they are read back. -/
theorem recordFrom_encodeRecord {depth : Nat} {fields : List (String × Datum)}
    (hnodup : (fields.map Prod.fst).Nodup)
    (hlen : (encodeRecord fields).length < lengthLimit)
    (hentries : ∀ field ∈ fields,
      entryFrom depth (entryMessage field.1 field.2.encode) =
      some ⟨field.1, field.2.sorted, true⟩) :
    recordFrom (depth + 1) [] (encodeRecord fields) =
      some (sortEntries (Datum.sortedFields fields)) := by
  have hperm := sortEntries_perm fields
  rw [encodeRecord_eq, Datum.sortedFields_eq_map, sortEntries_map]
  refine recordFrom_entries (sortEntries fields) []
    ((hperm.map Prod.fst).nodup_iff.2 hnodup) fun field hmem => ?_
  have hfield := hperm.mem_iff.1 hmem
  exact ⟨Nat.lt_of_le_of_lt (length_entry_le hfield) hlen,
    hentries field hfield⟩

/-! ## Values -/

namespace Datum

theorem encode_record (fields : List (String × Datum)) :
    (Datum.record fields).encode = bytesField 5 (encodeRecord fields) := by
  rw [encode]
  rfl

mutual

/-- A value is read back with the entries of all its records in order. -/
theorem datumFrom_encode :
    ∀ (datum : Datum) {depth : Nat}, datum.Keyed → datum.levels ≤ depth →
      datum.encode.length < lengthLimit →
      datumFrom depth .null datum.encode = some datum.sorted
  | .null, depth + 1, _, _, _ => by
      have hitem := takeItem_varintField [] (show 1 < 16 by decide)
        (show 0 < 128 by decide)
      rw [List.append_nil] at hitem
      rw [encode, datumFrom, foldFields_single hitem (Nat.succ_ne_zero 0)]
      rfl
  | .number x, depth + 1, _, _, _ => by
      have hitem := takeItem_doubleField x [] (show 2 < 16 by decide)
      rw [List.append_nil] at hitem
      rw [encode, datumFrom, foldFields_single hitem (Nat.succ_ne_zero 1)]
      show some (Datum.number (Double.ofBytes x.toBytes)) = _
      rw [Double.ofBytes_toBytes]
      rfl
  | .text s, depth + 1, _, _, hlen => by
      rw [encode] at hlen ⊢
      have hitem := takeItem_bytesField [] (show 3 < 16 by decide)
        (Nat.lt_of_le_of_lt (length_le_bytesField 3 (utf8 s)) hlen)
      rw [List.append_nil] at hitem
      rw [datumFrom, foldFields_single hitem (Nat.succ_ne_zero 2)]
      show (text? (utf8 s)).map Datum.text = _
      rw [text?_utf8]
      rfl
  | .bool b, depth + 1, _, _, _ => by
      have hitem := takeItem_varintField [] (show 4 < 16 by decide)
        (show (if b then 1 else 0) < 128 by cases b <;> decide)
      rw [List.append_nil] at hitem
      rw [encode, datumFrom, foldFields_single hitem (Nat.succ_ne_zero 3)]
      cases b <;> rfl
  | .list items, 0, _, hdepth, _ => by
      rw [levels] at hdepth
      omega
  | .record fields, 0, _, hdepth, _ => by
      rw [levels] at hdepth
      omega
  | .list items, depth + 1, hkeyed, hdepth, hlen => by
      rw [encode] at hlen ⊢
      have hshort :=
        Nat.lt_of_le_of_lt (length_le_bytesField 6 (encodeItems items)) hlen
      have hitem := takeItem_bytesField [] (show 6 < 16 by decide) hshort
      rw [List.append_nil] at hitem
      rw [levels] at hdepth
      rw [Keyed] at hkeyed
      obtain ⟨below, rfl⟩ : ∃ below, depth = below + 1 := ⟨depth - 1, by omega⟩
      rw [datumFrom, foldFields_single hitem (Nat.succ_ne_zero 5)]
      show (listFrom (below + 1) [] (encodeItems items)).map Datum.list = _
      rw [listFrom_encodeItems items hkeyed (by omega) hshort []]
      rfl
  | .record fields, depth + 1, hkeyed, hdepth, hlen => by
      rw [encode_record] at hlen ⊢
      have hshort :=
        Nat.lt_of_le_of_lt (length_le_bytesField 5 (encodeRecord fields)) hlen
      have hitem := takeItem_bytesField [] (show 5 < 16 by decide) hshort
      rw [List.append_nil] at hitem
      rw [levels] at hdepth
      rw [Keyed] at hkeyed
      obtain ⟨below, rfl⟩ : ∃ below, depth = below + 1 := ⟨depth - 1, by omega⟩
      rw [datumFrom, foldFields_single hitem (Nat.succ_ne_zero 4)]
      show (recordFrom (below + 1) [] (encodeRecord fields)).map Datum.record = _
      rw [recordFrom_encodeRecord hkeyed.1 hshort fun field hmem =>
        entryFrom_encode fields hkeyed.2 (by omega) field hmem
          (Nat.lt_of_le_of_lt (length_entry_le hmem) hshort)]
      rfl

/-- A list is continued by its elements. -/
theorem listFrom_encodeItems :
    ∀ (items : List Datum) {depth : Nat}, KeyedItems items →
      levelsOfItems items ≤ depth →
      (encodeItems items).length < lengthLimit →
      ∀ sofar, listFrom (depth + 1) sofar (encodeItems items) =
        some (sofar ++ sortedItems items)
  | [], depth, _, _, _, sofar => by
      rw [encodeItems, listFrom, foldFields_nil, sortedItems, List.append_nil]
  | datum :: rest, depth, hkeyed, hdepth, hlen, sofar => by
      rw [encodeItems] at hlen ⊢
      rw [List.length_append] at hlen
      rw [levelsOfItems] at hdepth
      rw [KeyedItems] at hkeyed
      have hshort : datum.encode.length < lengthLimit := by
        have := length_le_bytesField 1 datum.encode
        omega
      have hitem := takeItem_bytesField (encodeItems rest) (show 1 < 16 by
        decide) hshort
      have hfirst :=
        datumFrom_encode datum hkeyed.1 (show datum.levels ≤ depth by
          omega) hshort
      have hrest := listFrom_encodeItems rest hkeyed.2
        (show levelsOfItems rest ≤ depth by omega) (by omega)
        (sofar ++ [datum.sorted])
      rw [listFrom] at hrest ⊢
      rw [foldFields_field hitem (Nat.succ_ne_zero 0)]
      simp only [hfirst, Option.map_some, Option.bind_some]
      rw [hrest, List.append_assoc]
      rfl

/-- The entries of a record are read back. -/
theorem entryFrom_encode :
    ∀ (fields : List (String × Datum)) {depth : Nat}, KeyedFields fields →
      levelsOfFields fields ≤ depth →
      ∀ field ∈ fields, (entry field.1 field.2.encode).length < lengthLimit →
        entryFrom depth (entryMessage field.1 field.2.encode) =
          some ⟨field.1, field.2.sorted, true⟩
  | (key, datum) :: rest, depth, hkeyed, hdepth, field, hmem, hlen => by
      rw [levelsOfFields] at hdepth
      rw [KeyedFields] at hkeyed
      rcases List.mem_cons.1 hmem with rfl | hmem
      · obtain ⟨below, rfl⟩ : ∃ below, depth = below + 1 :=
          ⟨depth - 1, by omega⟩
        exact entryFrom_entryMessage hlen
          (datumFrom_encode datum hkeyed.1 (by omega)
          (Nat.lt_of_le_of_lt (length_le_entry key datum.encode).2.1 hlen))
      · exact entryFrom_encode rest hkeyed.2 (by omega) field hmem hlen

end

end Datum

/-- A record within the limits of depth and length is read back with the entries
of all its records in order. -/
theorem decodeRecord_encodeRecord {fields : List (String × Datum)}
    (hkeyed : (Datum.record fields).Keyed)
    (hdepth : Datum.levelsOfFields fields ≤ messageDepth)
    (hlen : (encodeRecord fields).length < lengthLimit) :
    decodeRecord (encodeRecord fields) =
      some (sortEntries (Datum.sortedFields fields)) := by
  rw [Datum.Keyed] at hkeyed
  exact recordFrom_encodeRecord hkeyed.1 hlen fun field hmem =>
    Datum.entryFrom_encode fields hkeyed.2 hdepth field hmem
      (Nat.lt_of_le_of_lt (length_entry_le hmem) hlen)

end Wire
end HostedModules
