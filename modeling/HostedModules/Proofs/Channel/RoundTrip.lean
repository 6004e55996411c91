/-
HostedModules.Proofs.Channel.RoundTrip — requests are read back as they were
made.

* `mem_sent` — of the fields of a request, those are left out that were not
  given
* `request_round_trip` — reading a request back gives the fields that were sent,
  and the bytes of a request do not depend on the order of its fields, or of the
  keys of any record in it
-/
import HostedModules.Channel.Command
import HostedModules.Proofs.Channel.Agreement

namespace HostedModules
namespace Channel

open Value

theorem given_iff {v : Value} : given v = true ↔ v ≠ .null := by
  cases v <;> simp [given]

theorem mem_sent {fields : List (String × Value)} {field : String × Value} :
    field ∈ sent fields ↔ field ∈ fields ∧ field.2 ≠ .null := by
  unfold sent
  rw [List.mem_filter]
  exact and_congr_right fun _ => given_iff

theorem sent_keys_nodup {fields : List (String × Value)}
    (h : (fields.map Prod.fst).Nodup) :
    ((sent fields).map Prod.fst).Nodup :=
      h.sublist (List.filter_sublist.map Prod.fst)

theorem encodeRequest_eq {fields : List (String × Value)}
    {data : List (String × Wire.Datum)}
    (h : Wire.Datum.ofFields? (sent fields) = .ok data) :
    encodeRequest fields = .ok (Wire.encodeRecord data) := by
  rw [encodeRequest, h]
  rfl

/-- **Requests are read back as they were made.**  Take fields with distinct
names whose values a request may hold, nested no deeper than messages may be.
Exactly the fields that are not `null` are sent, and they can be encoded.  The
bytes are those of any other fields of which the same are sent, whatever their
order and the order of the keys of all records in them.  If lengths can count
the bytes, reading them gives fields that agree with those sent: the same keys,
with the same scalars, numbers being the same if they are equal, in lists and
records of the same structure. -/
theorem request_round_trip (fields : List (String × Value))
    (hkeys : (fields.map Prod.fst).Nodup)
    (hsendable : SendableFields (sent fields))
    (hdepth : levelsOfFields (sent fields) ≤ Wire.messageDepth) :
    (∀ field, field ∈ sent fields ↔ field ∈ fields ∧ field.2 ≠ .null) ∧
      ∃ bytes, encodeRequest fields = .ok bytes ∧
        (∀ others, AgreesFields Eq (sent fields) (sent others) →
          encodeRequest others = .ok bytes) ∧
        (bytes.length < Wire.lengthLimit →
          ∃ received, decodeResponse bytes = .ok received ∧
            AgreesFields Exact (sent fields) received) := by
  have hnodup := sent_keys_nodup hkeys
  obtain ⟨data, hencoded, hkeyed, hlevels, received, hdecoded, hagrees⟩ :=
    Wire.Datum.ofFields?_sendable (sent fields) hsendable
  refine ⟨fun field => mem_sent, Wire.encodeRecord data,
    encodeRequest_eq hencoded, ?_, ?_⟩
  · intro others hothers
    obtain ⟨data', hencoded', hsame⟩ :=
      Wire.Datum.sortEntries_of_agrees (sent fields) hnodup hsendable hothers hencoded
    rw [encodeRequest_eq hencoded', Wire.encodeRecord, Wire.encodeRecord, hsame]
  · intro hlen
    have hrecord : (Wire.Datum.record data).Keyed := by
      rw [Wire.Datum.Keyed, Wire.Datum.ofFields?_keys hencoded]
      exact ⟨hnodup, hkeyed⟩
    refine ⟨received, ?_, hagrees⟩
    rw [decodeResponse, Wire.decodeRecord_encodeRecord hrecord (by omega) hlen]
    exact hdecoded

/-- Fields of which one is left out, with a list in a record. -/
def nested : List (String × Value) :=
  [("version", .null),
    ("options", .record [("on", .bool true),
      ("of", .list [.null, .text "", .int (-3)])]),
    ("module", .text "web")]

/-- The same the other way round, without the one that is left out. -/
def nestedOtherwise : List (String × Value) :=
  [("module", .text "web"),
    ("options", .record [("of", .list [.null, .text "", .int (-3)]),
      ("on", .bool true)])]

/-- A list in a record is read back, and its bytes do not depend on the order of
keys. -/
theorem request_round_trip_nested :
    (nested.map Prod.fst).Nodup ∧ SendableFields (sent nested) ∧
      levelsOfFields (sent nested) ≤ Wire.messageDepth ∧
      ∃ bytes received, encodeRequest nested = .ok bytes ∧
        encodeRequest nestedOtherwise = .ok bytes ∧
        decodeResponse bytes = .ok received ∧
          AgreesFields Exact (sent nested) received := by
  have hkeys : (nested.map Prod.fst).Nodup := by decide
  have hlist : SendableItems [.null, .text "", .int (-3)] :=
    ⟨True.intro, True.intro, show 3 ≤ Double.exactLimit by decide, True.intro⟩
  have hsendable : SendableFields (sent nested) :=
    ⟨⟨by decide, True.intro, hlist, True.intro⟩, True.intro, True.intro⟩
  have hdepth : levelsOfFields (sent nested) ≤ Wire.messageDepth := by decide
  have hothers : AgreesFields Eq (sent nested) (sent nestedOtherwise) :=
    ⟨[("module", .text "web")], _, [], rfl,
      ⟨_, rfl, [("of", .list [.null, .text "", .int (-3)])], _, [], rfl, rfl,
        [], _, [], rfl,
        ⟨_, rfl, _, _, rfl, rfl, _, _, rfl, rfl, _, _, rfl, rfl, rfl⟩, rfl⟩,
      [], _, [], rfl, rfl, rfl⟩
  obtain ⟨-, bytes, hbytes, horder, hread⟩ :=
    request_round_trip nested hkeys hsendable hdepth
  have hlength : (encodeRequest nested).toOption.map List.length = some 71 := by
    decide +kernel
  have hcount : bytes.length = 71 := by
    rw [hbytes] at hlength
    exact Option.some.inj hlength
  obtain ⟨received, hreceived, hagrees⟩ := hread (by rw [hcount]; decide)
  exact ⟨hkeys, hsendable, hdepth, bytes, received, hbytes, horder _ hothers,
    hreceived, hagrees⟩

end Channel
end HostedModules
