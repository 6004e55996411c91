/-
HostedModules.Proofs.Channel.Agreement — values that mean the same to the
channel.

* `Value.Agrees` — the same structure in depth, whatever the order of a record's
  keys, and related scalars
* `Value.Exact` — scalars are related if they are identical, or numbers of one
  exact quantity
* `Value.Sendable`, `Value.levels` — what a request may hold, and how many
  messages it nests
* `Wire.Datum.ofValue?_sendable` — such a value becomes a datum that agrees with
  it
* `Wire.Datum.encode_of_agrees` — values that differ in the order of keys alone
  have the same bytes
-/
import HostedModules.Proofs.Steps
import HostedModules.Proofs.Value.Order
import HostedModules.Proofs.Wire.RoundTrip

namespace HostedModules

namespace Value

/-! ## Agreement -/

section Agreement

variable (scalar : Value → Value → Prop)

mutual

/-- The values agree in depth: lists in their order, records whatever the order
of their keys, and anything else as the relation of scalars tells. -/
def Agrees : Value → Value → Prop
  | .list items, w => ∃ others, w = .list others ∧ AgreesItems items others
  | .record fields, w =>
      ∃ others, w = .record others ∧ AgreesFields fields others
  | v, w => scalar v w

/-- Two lists agree element by element. -/
def AgreesItems : List Value → List Value → Prop
  | [], others => others = []
  | v :: rest, others =>
      ∃ w more, others = w :: more ∧ Agrees v w ∧ AgreesItems rest more

/-- Two records agree key by key: each key of the one stands somewhere in the
other, and what is left agrees. -/
def AgreesFields : List (String × Value) → List (String × Value) → Prop
  | [], others => others = []
  | (key, v) :: rest, others =>
    ∃ before w after, others = before ++ (key, w) :: after ∧ Agrees v w ∧
      AgreesFields rest (before ++ after)

end

end Agreement

/-- The value is a number, and not a truth value. -/
def isNumber : Value → Bool
  | .int _ => true
  | .double _ => true
  | _ => false

/-- Two scalars are identical, or numbers of one exact quantity. -/
def Exact (v w : Value) : Prop :=
  v = w ∨ v.isNumber = true ∧ w.isNumber = true ∧ v.equal w = true

/-- Records that agree have the same keys. -/
theorem AgreesFields.keys {scalar : Value → Value → Prop} :
    ∀ {fields others : List (String × Value)},
      AgreesFields scalar fields others →
      (others.map Prod.fst).Perm (fields.map Prod.fst)
  | [], others, h => by
      rw [AgreesFields] at h
      subst h
      exact List.Perm.refl _
  | (key, v) :: rest, others, h => by
      rw [AgreesFields] at h
      obtain ⟨before, w, after, rfl, -, hrest⟩ := h
      have hkeys := hrest.keys
      rw [List.map_append] at hkeys
      rw [List.map_append, List.map_cons, List.map_cons]
      exact List.perm_middle.trans (hkeys.cons key)

/-! ## What a request may hold -/

mutual

/-- The value may be sent: integers are exact as doubles, doubles are finite, no
byte strings, and every record has each key once. -/
def Sendable : Value → Prop
  | .int n => n.natAbs ≤ Double.exactLimit
  | .double x => x.finite = true
  | .bytes _ => False
  | .list items => SendableItems items
  | .record fields => (fields.map Prod.fst).Nodup ∧ SendableFields fields
  | _ => True

/-- All elements may be sent. -/
def SendableItems : List Value → Prop
  | [] => True
  | v :: rest => v.Sendable ∧ SendableItems rest

/-- The values of all fields may be sent. -/
def SendableFields : List (String × Value) → Prop
  | [] => True
  | (_, v) :: rest => v.Sendable ∧ SendableFields rest

end

mutual

/-- How many messages the value nests when it is sent: its own, that of a list
or record in it, and those of the entries of a record. -/
def levels : Value → Nat
  | .list items => 2 + levelsOfItems items
  | .record fields => 2 + levelsOfFields fields
  | _ => 1

/-- How many messages the elements of a list nest. -/
def levelsOfItems : List Value → Nat
  | [] => 0
  | v :: rest => max v.levels (levelsOfItems rest)

/-- How many messages the entries of a record nest. -/
def levelsOfFields : List (String × Value) → Nat
  | [] => 0
  | (_, v) :: rest => max (1 + v.levels) (levelsOfFields rest)

end

end Value

namespace Wire
namespace Datum

open Value

/-! ## From values to data and back -/

theorem ofFields?_keys :
    ∀ {fields : List (String × Value)} {data : List (String × Datum)},
      ofFields? fields = .ok data →
      data.map Prod.fst = fields.map Prod.fst
  | [], data, h => by
      obtain rfl : [] = data := Except.ok.inj h
      rfl
  | (key, v) :: rest, data, h => by
      rw [ofFields?] at h
      obtain ⟨d, ds, -, hrest, rfl⟩ := Failure.both_eq_ok.1 h
      rw [List.map_cons, List.map_cons, ofFields?_keys hrest]

theorem ofFields?_append {fields others : List (String × Value)}
    {data : List (String × Datum)} :
    ofFields? (fields ++ others) = .ok data ↔
      ∃ front back, ofFields? fields = .ok front ∧ ofFields? others = .ok back ∧
        data = front ++ back := by
  induction fields generalizing data with
  | nil =>
      constructor
      · exact fun h => ⟨[], data, rfl, h, rfl⟩
      · rintro ⟨front, back, hfront, hback, rfl⟩
        obtain rfl : [] = front := Except.ok.inj hfront
        exact hback
  | cons field rest ih =>
      obtain ⟨key, v⟩ := field
      rw [List.cons_append, ofFields?, ofFields?, Failure.both_eq_ok]
      constructor
      · rintro ⟨d, ds, hv, hds, rfl⟩
        obtain ⟨front, back, hfront, hback, rfl⟩ := ih.1 hds
        exact ⟨(key, d) :: front, back,
          Failure.both_eq_ok.2 ⟨d, front, hv, hfront, rfl⟩, hback, rfl⟩
      · rintro ⟨front, back, hfront, hback, rfl⟩
        obtain ⟨d, ds, hv, hds, rfl⟩ := Failure.both_eq_ok.1 hfront
        exact ⟨d, ds ++ back, hv, ih.2 ⟨ds, back, hds, hback, rfl⟩, rfl⟩

theorem toFields?_insertEntry {key : String} {d : Datum} {w : Value}
    (hd : toValue? d = .ok w) :
    ∀ {data : List (String × Datum)} {fields : List (String × Value)},
      toFields? data = .ok fields →
      toFields? (insertEntry key d data) = .ok (insertEntry key w fields)
  | [], fields, h => by
      obtain rfl : [] = fields := Except.ok.inj h
      exact Failure.both_eq_ok.2 ⟨w, [], hd, rfl, rfl⟩
  | (k, e) :: rest, fields, h => by
      have hall := h
      rw [toFields?] at h
      obtain ⟨v, vs, he, hrest, rfl⟩ := Failure.both_eq_ok.1 h
      cases hbefore : keyBefore (utf8 k) (utf8 key) with
      | true =>
          rw [insertEntry_cons_of_before hbefore,
            insertEntry_cons_of_before hbefore]
          exact Failure.both_eq_ok.2 ⟨v, _, he, toFields?_insertEntry hd hrest, rfl⟩
      | false =>
          rw [insertEntry_cons_of_not_before hbefore,
            insertEntry_cons_of_not_before hbefore]
          exact Failure.both_eq_ok.2 ⟨w, _, hd, hall, rfl⟩

/-! ## Sendable values -/

/-- The datum stands for the value: it nests as many messages, has each key once
in every record, and is read back as a value that agrees. -/
structure Carries (datum : Datum) (v : Value) : Prop where
  encoded : ofValue? v = .ok datum
  keyed : datum.Keyed
  levels : datum.levels = v.levels
  decoded : ∃ w, toValue? datum.sorted = .ok w ∧ Agrees Exact v w

mutual

/-- Every value that may be sent has a datum that stands for it. -/
theorem ofValue?_sendable :
    ∀ (v : Value), v.Sendable → ∃ datum : Datum, datum.Carries v
  | .null, _ => ⟨.null, rfl, True.intro, rfl, .null, rfl, Or.inl rfl⟩
  | .bool b, _ => ⟨.bool b, rfl, True.intro, rfl, .bool b, rfl, Or.inl rfl⟩
  | .text s, _ => ⟨.text s, rfl, True.intro, rfl, .text s, rfl, Or.inl rfl⟩
  | .bytes bs, h => h.elim
  | .double x, h => by
      rw [Sendable] at h
      exact ⟨.number x, rfl, True.intro, rfl, .double x, if_pos h, Or.inl rfl⟩
  | .int n, h => by
      rw [Sendable] at h
      obtain ⟨x, hx, hfinite, hreading⟩ := Double.ofInt?_exact h
      refine ⟨.number x, ?_, True.intro, rfl, .double x, if_pos hfinite,
        Or.inr ⟨rfl, rfl, ?_⟩⟩
      · rw [ofValue?, hx]
      · have hquantity : (Value.double x).quantity? = some (Quantity.ofInt n) :=
          congrArg some hreading
        rw [equal_of_quantity? rfl, hquantity]
        exact (Quantity.equal_ofInt n n).trans (decide_eq_true rfl)
  | .list items, h => by
      rw [Sendable] at h
      obtain ⟨data, hencoded, hkeyed, hlevels, values, hdecoded, hagrees⟩ :=
        ofItems?_sendable items h
      refine ⟨.list data, ?_, hkeyed, ?_, .list values, ?_, values, rfl, hagrees⟩
      · rw [ofValue?, hencoded]
        rfl
      · rw [levels, Value.levels, hlevels]
      · rw [sorted, toValue?, hdecoded]
        rfl
  | .record fields, h => by
      rw [Sendable] at h
      obtain ⟨data, hencoded, hkeyed, hlevels, values, hdecoded, hagrees⟩ :=
        ofFields?_sendable fields h.2
      refine ⟨.record data, ?_, ⟨?_, hkeyed⟩, ?_, .record values, ?_, values,
        rfl, hagrees⟩
      · rw [ofValue?, hencoded]
        rfl
      · rw [ofFields?_keys hencoded]
        exact h.1
      · rw [levels, Value.levels, hlevels]
      · rw [sorted, toValue?, hdecoded]
        rfl

theorem ofItems?_sendable :
    ∀ (items : List Value), SendableItems items → ∃ data,
      ofItems? items = .ok data ∧ KeyedItems data ∧
      levelsOfItems data = Value.levelsOfItems items ∧
      ∃ values, toItems? (sortedItems data) = .ok values ∧
        AgreesItems Exact items values
  | [], _ => ⟨[], rfl, True.intro, rfl, [], rfl, rfl⟩
  | v :: rest, h => by
      rw [SendableItems] at h
      obtain ⟨d, hv⟩ := ofValue?_sendable v h.1
      obtain ⟨w, hd, hw⟩ := hv.decoded
      obtain ⟨ds, hencoded, hkeyed, hlevels, ws, hdecoded, hagrees⟩ :=
        ofItems?_sendable rest h.2
      refine ⟨d :: ds, Failure.both_eq_ok.2 ⟨d, ds, hv.encoded, hencoded, rfl⟩,
        ⟨hv.keyed, hkeyed⟩, ?_, w :: ws,
        Failure.both_eq_ok.2 ⟨w, ws, hd, hdecoded, rfl⟩, w, ws, rfl, hw, hagrees⟩
      rw [levelsOfItems, Value.levelsOfItems, hv.levels, hlevels]

theorem ofFields?_sendable :
    ∀ (fields : List (String × Value)), SendableFields fields → ∃ data,
      ofFields? fields = .ok data ∧
      KeyedFields data ∧ levelsOfFields data = Value.levelsOfFields fields ∧
      ∃ values, toFields? (sortEntries (sortedFields data)) = .ok values ∧
        AgreesFields Exact fields values
  | [], _ => ⟨[], rfl, True.intro, rfl, [], rfl, rfl⟩
  | (key, v) :: rest, h => by
      rw [SendableFields] at h
      obtain ⟨d, hv⟩ := ofValue?_sendable v h.1
      obtain ⟨w, hd, hw⟩ := hv.decoded
      obtain ⟨ds, hencoded, hkeyed, hlevels, ws, hdecoded, hagrees⟩ :=
        ofFields?_sendable rest h.2
      obtain ⟨before, after, hsplit, hinsert⟩ := insertEntry_split key w ws
      refine ⟨(key, d) :: ds,
        Failure.both_eq_ok.2 ⟨d, ds, hv.encoded, hencoded, rfl⟩,
        ⟨hv.keyed, hkeyed⟩, ?_, insertEntry key w ws,
        toFields?_insertEntry hd hdecoded, before, w, after, hinsert, hw, ?_⟩
      · rw [levelsOfFields, Value.levelsOfFields, hv.levels, hlevels]
      · rw [← hsplit]
        exact hagrees

end

/-! ## The order of keys -/

mutual

/-- Values that differ in the order of keys alone are sent as the same bytes. -/
theorem encode_of_agrees :
    ∀ (v : Value) {w : Value} {d : Datum}, v.Sendable → Agrees Eq v w →
      ofValue? v = .ok d →
      ∃ e, ofValue? w = .ok e ∧ e.encode = d.encode
  | .null, w, d, _, hagrees, hd =>
      ⟨d, (show Value.null = w from hagrees) ▸ hd, rfl⟩
  | .bool b, w, d, _, hagrees, hd =>
      ⟨d, (show Value.bool b = w from hagrees) ▸ hd, rfl⟩
  | .int n, w, d, _, hagrees, hd =>
      ⟨d, (show Value.int n = w from hagrees) ▸ hd, rfl⟩
  | .double x, w, d, _, hagrees, hd =>
      ⟨d, (show Value.double x = w from hagrees) ▸ hd, rfl⟩
  | .text s, w, d, _, hagrees, hd =>
      ⟨d, (show Value.text s = w from hagrees) ▸ hd, rfl⟩
  | .bytes bs, w, d, h, _, _ => h.elim
  | .list items, w, d, h, hagrees, hd => by
      rw [Sendable] at h
      rw [ofValue?] at hd
      obtain ⟨others, rfl, hagrees⟩ := hagrees
      obtain ⟨data, hdata, rfl⟩ := Failure.map_eq_ok.1 hd
      obtain ⟨data', hdata', hsame⟩ :=
        encodeItems_of_agrees items h hagrees hdata
      refine ⟨.list data', Failure.map_eq_ok.2 ⟨data', hdata', rfl⟩, ?_⟩
      rw [encode, encode, hsame]
  | .record fields, w, d, h, hagrees, hd => by
      rw [Sendable] at h
      rw [ofValue?] at hd
      obtain ⟨others, rfl, hagrees⟩ := hagrees
      obtain ⟨data, hdata, rfl⟩ := Failure.map_eq_ok.1 hd
      obtain ⟨data', hdata', hsame⟩ :=
        sortEntries_of_agrees fields h.1 h.2 hagrees hdata
      refine ⟨.record data', Failure.map_eq_ok.2 ⟨data', hdata', rfl⟩, ?_⟩
      rw [encode, encode, hsame]

theorem encodeItems_of_agrees :
    ∀ (items : List Value) {others : List Value} {data : List Datum},
      SendableItems items →
      AgreesItems Eq items others → ofItems? items = .ok data →
      ∃ data', ofItems? others = .ok data' ∧
        encodeItems data' = encodeItems data
  | [], others, data, _, hagrees, hdata => by
      obtain rfl : others = [] := hagrees
      exact ⟨data, hdata, rfl⟩
  | v :: rest, others, data, h, hagrees, hdata => by
      rw [SendableItems] at h
      obtain ⟨w, more, rfl, hw, hmore⟩ := hagrees
      rw [ofItems?] at hdata
      obtain ⟨d, ds, hd, hds, rfl⟩ := Failure.both_eq_ok.1 hdata
      obtain ⟨e, he, hesame⟩ := encode_of_agrees v h.1 hw hd
      obtain ⟨es, hes, hessame⟩ := encodeItems_of_agrees rest h.2 hmore hds
      refine ⟨e :: es, Failure.both_eq_ok.2 ⟨e, es, he, hes, rfl⟩, ?_⟩
      rw [encodeItems, encodeItems, hesame, hessame]

theorem sortEntries_of_agrees :
    ∀ (fields : List (String × Value)) {others : List (String × Value)} {data :
      List (String × Datum)},
      (fields.map Prod.fst).Nodup → SendableFields fields →
        AgreesFields Eq fields others →
      ofFields? fields = .ok data →
      ∃ data', ofFields? others = .ok data' ∧
        sortEntries (encodeFields data') = sortEntries (encodeFields data)
  | [], others, data, _, _, hagrees, hdata => by
      obtain rfl : others = [] := hagrees
      exact ⟨data, hdata, rfl⟩
  | (key, v) :: rest, others, data, hnodup, h, hagrees, hdata => by
      rw [SendableFields] at h
      obtain ⟨before, w, after, rfl, hw, hrest⟩ := hagrees
      rw [ofFields?] at hdata
      obtain ⟨d, ds, hd, hds, rfl⟩ := Failure.both_eq_ok.1 hdata
      obtain ⟨hkey, hnodup⟩ := List.nodup_cons.1 hnodup
      obtain ⟨e, he, hesame⟩ := encode_of_agrees v h.1 hw hd
      obtain ⟨es, hes, hessame⟩ :=
        sortEntries_of_agrees rest hnodup h.2 hrest hds
      obtain ⟨front, back, hfront, hback, rfl⟩ := ofFields?_append.1 hes
      have hfree : key ∉ (encodeFields front).map Prod.fst := by
        rw [encodeFields_keys, ofFields?_keys hfront]
        intro hmem
        refine hkey (hrest.keys.subset ?_)
        rw [List.map_append]
        exact List.mem_append_left _ hmem
      refine ⟨front ++ (key, e) :: back,
        ofFields?_append.2 ⟨front, (key, e) :: back, hfront,
          Failure.both_eq_ok.2 ⟨e, back, he, hback, rfl⟩, rfl⟩, ?_⟩
      rw [encodeFields_append, encodeFields, sortEntries_middle hfree,
        ← encodeFields_append, hessame, hesame]
      rfl

end

end Datum
end Wire
end HostedModules
