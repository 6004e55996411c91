/-
HostedModules.Proofs.Channel.Readable — which answers of the channel can be
read.

An answer is read in two steps.  Its bytes are taken apart as a message, and
bytes that are none are told as malformed.  Then the data of the message become
values, and a number that is infinite or undefined, at whatever depth it stands,
has no counterpart among them.  That is told as it is, and nothing on the way to
the future of a call changes it.

* `Wire.Datum.Holds` — a number stands somewhere in a datum
* `Wire.Datum.toValue?_fails_iff` — a datum has no counterpart exactly if it
  holds a number that is not finite
* `Channel.Boundless` — bytes that are a message with such a number
* `Channel.decodeResponse_malformed_iff`, `Channel.decodeResponse_boundless_iff`
  — how bytes fail to be read, and when
* `Operation.conclude_unread` — what an answer that cannot be read makes of the
  future of a call
-/
import HostedModules.Proofs.Channel.Failures

namespace HostedModules

/-! ## Numbers in a datum -/

namespace Wire.Datum

/-- The number stands somewhere in the datum. -/
inductive Holds (x : Double) : Datum → Prop
  | number : Holds x (.number x)
  | item {datum : Datum} {items : List Datum} (hmem : datum ∈ items)
      (h : Holds x datum) : Holds x (.list items)
  | field {key : String} {datum : Datum} {fields : List (String × Datum)}
      (hmem : (key, datum) ∈ fields)
      (h : Holds x datum) : Holds x (.record fields)

/-- A number that is not finite stands somewhere in the datum. -/
def HoldsBoundless (datum : Datum) : Prop :=
  ∃ x, datum.Holds x ∧ x.finite = false

theorem holdsBoundless_number {x : Double} :
    (Datum.number x).HoldsBoundless ↔ x.finite = false := by
  constructor
  · rintro ⟨y, hholds, hfinite⟩
    cases hholds
    exact hfinite
  · exact fun hfinite => ⟨x, .number, hfinite⟩

theorem holdsBoundless_list {items : List Datum} :
    (Datum.list items).HoldsBoundless ↔ ∃ datum ∈ items, datum.HoldsBoundless := by
  constructor
  · rintro ⟨x, hholds, hfinite⟩
    cases hholds with
    | item hmem hitem => exact ⟨_, hmem, x, hitem, hfinite⟩
  · rintro ⟨datum, hmem, x, hitem, hfinite⟩
    exact ⟨x, .item hmem hitem, hfinite⟩

theorem holdsBoundless_record {fields : List (String × Datum)} :
    (Datum.record fields).HoldsBoundless ↔ ∃ field ∈ fields,
      field.2.HoldsBoundless := by
  constructor
  · rintro ⟨x, hholds, hfinite⟩
    cases hholds with
    | field hmem hfield => exact ⟨_, hmem, x, hfield, hfinite⟩
  · rintro ⟨⟨key, datum⟩, hmem, x, hfield, hfinite⟩
    exact ⟨x, .field hmem hfield, hfinite⟩

mutual

/-- A datum has no counterpart among the values exactly if it holds a number
that is not finite. -/
theorem toValue?_fails_iff :
    ∀ datum : Datum, (∃ failure, toValue? datum = .error failure) ↔
      datum.HoldsBoundless
  | .null | .bool _ | .text _ => by
      refine ⟨fun ⟨_, h⟩ => by simp [toValue?] at h, ?_⟩
      rintro ⟨x, hholds, -⟩
      cases hholds
  | .number x => by
      rw [holdsBoundless_number, toValue?]
      cases x.finite <;> simp
  | .list items => by
      simp only [toValue?, Failure.map_eq_error_iff, toItems?_fails_iff items,
        holdsBoundless_list]
  | .record fields => by
      simp only [toValue?, Failure.map_eq_error_iff, toFields?_fails_iff fields,
        holdsBoundless_record]

theorem toItems?_fails_iff : ∀ items : List Datum,
    (∃ failure, toItems? items = .error failure) ↔ ∃ datum ∈ items,
      datum.HoldsBoundless
  | [] => by simp [toItems?]
  | datum :: rest => by
      rw [toItems?, Failure.both_fails_iff, toValue?_fails_iff datum,
        toItems?_fails_iff rest, List.exists_mem_cons_iff]

theorem toFields?_fails_iff : ∀ fields : List (String × Datum),
    (∃ failure, toFields? fields = .error failure) ↔ ∃ field ∈ fields,
      field.2.HoldsBoundless
  | [] => by simp [toFields?]
  | (key, datum) :: rest => by
      rw [toFields?, Failure.both_fails_iff, toValue?_fails_iff datum,
        toFields?_fails_iff rest, List.exists_mem_cons_iff]

end

end Wire.Datum

/-! ## Answers -/

namespace Channel

/-- The bytes are a message, and a number that is infinite or undefined stands
somewhere in it. -/
def Boundless (bytes : List UInt8) : Prop :=
  ∃ fields, Wire.decodeRecord bytes = some fields ∧
    (Wire.Datum.record fields).HoldsBoundless

/-- What a number without a counterpart among the values is told as. -/
def boundlessNumber : Failure := .unworded .wrongValue

/-- Every answer that cannot be read is told as malformed or as a number without
a counterpart. -/
theorem decodeResponse_eq_error {bytes : List UInt8} {failure : Failure}
    (h : decodeResponse bytes = .error failure) :
    failure = malformed ∧ Wire.decodeRecord bytes = none ∨
      failure = boundlessNumber ∧ Boundless bytes := by
  unfold decodeResponse at h
  cases hwire : Wire.decodeRecord bytes with
  | none =>
      rw [hwire] at h
      exact .inl ⟨(Except.error.inj h).symm, rfl⟩
  | some fields =>
      rw [hwire] at h
      have hholds := (Wire.Datum.toFields?_fails_iff fields).1 ⟨failure, h⟩
      exact .inr ⟨Wire.Datum.toFields?_error h, fields, hwire,
        Wire.Datum.holdsBoundless_record.2 hholds⟩

theorem decodeResponse_of_boundless {bytes : List UInt8} (h : Boundless bytes) :
    decodeResponse bytes = .error boundlessNumber := by
  obtain ⟨fields, hwire, hholds⟩ := h
  obtain ⟨failure, hfields⟩ :=
    (Wire.Datum.toFields?_fails_iff fields).2
      (Wire.Datum.holdsBoundless_record.1 hholds)
  obtain rfl := Wire.Datum.toFields?_error hfields
  simp only [decodeResponse, hwire, hfields, boundlessNumber]

/-- Bytes are told as malformed exactly if they are no message. -/
theorem decodeResponse_malformed_iff {bytes : List UInt8} :
    decodeResponse bytes = .error malformed ↔ Wire.decodeRecord bytes = none := by
  constructor
  · intro h
    rcases decodeResponse_eq_error h with ⟨-, hwire⟩ | ⟨hsame, -⟩
    · exact hwire
    · exact nomatch congrArg Failure.kind hsame
  · intro hwire
    simp only [decodeResponse, hwire]

/-- A number without a counterpart is told of exactly if the bytes are a message
with such a number. -/
theorem decodeResponse_boundless_iff {bytes : List UInt8} :
    decodeResponse bytes = .error boundlessNumber ↔ Boundless bytes := by
  refine ⟨fun h => ?_, decodeResponse_of_boundless⟩
  rcases decodeResponse_eq_error h with ⟨hsame, -⟩ | ⟨-, hboundless⟩
  · exact nomatch congrArg Failure.kind hsame
  · exact hboundless

/-- All other bytes are read. -/
theorem decodeResponse_ok_iff {bytes : List UInt8} :
    (∃ response, decodeResponse bytes = .ok response) ↔
      Wire.decodeRecord bytes ≠ none ∧ ¬ Boundless bytes := by
  rw [← decodeResponse_boundless_iff, Ne, ← decodeResponse_malformed_iff]
  cases h : decodeResponse bytes with
  | ok response => simp
  | error failure =>
      rcases decodeResponse_eq_error h with ⟨rfl, -⟩ | ⟨rfl, -⟩ <;> simp

end Channel

/-! ## Calls -/

open Future

/-- An answer that cannot be read ends the future of its call as it failed to be
read, without a caller that waits. -/
theorem Operation.conclude_unread (operation : Operation) {bytes : List UInt8}
    {failure : Failure} (h : Channel.decodeResponse bytes = .error failure) :
    conclude operation.stages (.ok (.value (.bytes bytes))) = .error failure := by
  have hfailed : Channel.failed? (.ok (.value (.bytes bytes))) = some failure := by
    simp only [Channel.failed?, h]
  show conclude operation.leniency
    (operation.command.derivation.reference (.ok (.value (.bytes bytes)))) = _
  rw [reference_recover (Channel.converted_of_failed? hfailed _)]
  -- neither failure is one that the remote service reported, nor one that a
  -- start or a stop is pardoned for
  rcases Channel.decodeResponse_eq_error h with ⟨rfl, -⟩ | ⟨rfl, -⟩ <;>
    exact (conclude_leniency _ _).trans
      (if_neg fun hpardoned => nomatch hpardoned.1)

end HostedModules
