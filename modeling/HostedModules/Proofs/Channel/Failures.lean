/-
HostedModules.Proofs.Channel.Failures — how an operation on the legacy channel
fails.

A failure of the channel passes three layers before a caller that waits sees it:
the call gives a reported error code its meaning, a start or stop takes "nothing
to do" for a success, and the wait wraps what is not meant for callers.  What
comes of all three is told here in one table.

* `Operation.reportedEnd` — what a reported error code ends the operation with
* `Operation.failedEnd` — what any failure ends the operation with
* `Channel.failed?` — the failure that an outcome of the channel amounts to,
  unreadable answers included
* `observe_conclude` — the three layers together are the table
-/
import HostedModules.Proofs.Steps
import HostedModules.Proofs.Dispatch.Start
import HostedModules.Proofs.Future.Waiting
import HostedModules.Proofs.Value.Order

namespace HostedModules

open Future

/-! ## Equal codes -/

namespace Channel
namespace ErrorCode

/-- A reported value has the code that it equals, and no other. -/
theorem ofValue?_eq_some_iff {reported : Value} {code : ErrorCode} :
    ofValue? reported = some code ↔ reported.equal (.int code.number) = true := by
  have hequal : ∀ {code}, ofValue? reported = some code →
      reported.equal (.int code.number) = true := by
    intro code h
    unfold ofValue? at h
    have hfound := List.find?_some h
    exact hfound
  constructor
  · exact hequal
  · intro h
    cases hfound : ofValue? reported with
    | none =>
        have hmem : code ∈ all := by cases code <;> decide
        exact absurd h (List.find?_eq_none.1 hfound code hmem)
    | some other =>
        have hnumber : other.number = code.number :=
          Value.eq_of_equal_int (hequal hfound) h
        cases other <;> cases code <;>
          first | rfl | exact absurd hnumber (by decide)

end ErrorCode
end Channel

/-! ## The table -/

namespace Operation

/-- The operation is a start or a stop. -/
def switches (operation : Operation) : Bool := operation.suppression?.isSome

theorem switches_command (operation : Operation) :
    operation.command.switches = operation.switches := by
  cases operation <;> rfl

/-- What a start or stop that finds nothing to do ends with. -/
def nothingToDo : Outcome := .ok (.action (.unchanged suppressor))

/-- What the operation ends with when the remote service reports this code;
whatever is raised follows from the report. -/
def reportedEnd (operation : Operation) (reported : Value)
    (report : Failure) : Outcome :=
  let raised (kind : Failure.Kind) (text : String) : Outcome :=
    .error (.because kind (some text) report)
  if reported.equal (.int 1) then raised .invalidModule "Unknown module"
  else if reported.equal (.int 2) then
    raised .invalidVersion "Unknown module version"
  else if reported.equal (.int 3) then
    raised .invalidInstances "Invalid instance"
  else if reported.equal (.int 4) then
    raised .transient
      ("Transient error with method " ++ Text.quoted operation.command.method)
  else if reported.equal (.int 5) then
    if operation.switches then nothingToDo
    else raised .unexpectedState
      ("Unexpected state with method " ++ Text.quoted operation.command.method)
  else raised .modules ("Unknown error: \x27" ++ reported.shown ++ "\x27")

/-- What a caller that waits for the operation gets when the future of the
channel fails in this way. -/
def failedEnd (operation : Operation) (failure : Failure) : Outcome :=
  if failure.kind.recoverable = false then .error failure
  else
    match failure.evidence with
    | .code reported => operation.reportedEnd reported failure
    | _ =>
      if failure.kind = .alreadyInDesiredState ∧ operation.switches = true then
        nothingToDo
      else if failure.kind.isA .modules ∨ failure.kind.isA .configuration ∨
        failure.kind.isA .timeout then
        .error failure
      else if failure.kind.isA .cancelled then
        .error (.unexpected (some "Unexpected failure: call was cancelled") failure)
      else .error (.unexpected (failure.quoting "Unexpected failure: ") failure)

end Operation

namespace Channel

/-- The failure that an outcome of the channel's future amounts to: the failure
itself, or why the bytes of the answer cannot be read. -/
def failed? : Outcome → Option Failure
  | .error failure => some failure
  | .ok (.value (.bytes bytes)) =>
    match decodeResponse bytes with
    | .error failure => some failure
    | .ok _ => none
  | .ok _ => some Failure.wrongType

theorem converted_of_failed? {outcome : Outcome} {failure : Failure}
    (h : failed? outcome = some failure) (command : Command) :
    command.derivation.converted outcome = .error failure := by
  unfold failed? at h
  split at h
  · obtain rfl := Option.some.inj h
    rfl
  · rename_i bytes
    show (decodeResponse bytes).bind command.convert = _
    cases hdecode : decodeResponse bytes with
    | error failure' =>
        rw [hdecode] at h
        obtain rfl := Option.some.inj h
        rfl
    | ok fields => simp [hdecode] at h
  · rename_i answer hbytes
    obtain rfl := Option.some.inj h
    show command.convertAnswer answer = _
    unfold Command.convertAnswer
    split
    · rename_i bytes
      exact absurd rfl (hbytes bytes)
    · rfl

end Channel

namespace Wire.Datum

mutual

/-- A datum has no counterpart among the values only if it holds a number that
is none. -/
theorem toValue?_error {failure : Failure} :
    ∀ {datum : Datum}, toValue? datum = .error failure →
      failure = Failure.unworded .wrongValue
  | .null, h => by simp [toValue?] at h
  | .bool b, h => by simp [toValue?] at h
  | .text s, h => by simp [toValue?] at h
  | .number x, h => by
      simp only [toValue?] at h
      split at h
      · simp at h
      · exact (Except.error.inj h).symm
  | .list items, h => by
      rw [toValue?] at h
      exact toItems?_error (Failure.map_eq_error_iff.1 h)
  | .record fields, h => by
      rw [toValue?] at h
      exact toFields?_error (Failure.map_eq_error_iff.1 h)

theorem toItems?_error {failure : Failure} :
    ∀ {items : List Datum}, toItems? items = .error failure →
      failure = Failure.unworded .wrongValue
  | [], h => by simp [toItems?] at h
  | datum :: rest, h => by
      rw [toItems?] at h
      rcases Failure.both_eq_error h with hdatum | hrest
      · exact toValue?_error hdatum
      · exact toItems?_error hrest

theorem toFields?_error {failure : Failure} :
    ∀ {fields : List (String × Datum)}, toFields? fields = .error failure →
      failure = Failure.unworded .wrongValue
  | [], h => by simp [toFields?] at h
  | (key, datum) :: rest, h => by
      rw [toFields?] at h
      rcases Failure.both_eq_error h with hdatum | hrest
      · exact toValue?_error hdatum
      · exact toFields?_error hrest

end

end Wire.Datum

namespace Channel

/-- An answer that cannot be read is malformed, or holds a number that is none,
or is none of bytes at all. -/
theorem failed?_ok {answer : Answer} {failure : Failure}
    (h : failed? (.ok answer) = some failure) :
    failure = malformed ∨ failure = Failure.unworded .wrongValue ∨
      failure = Failure.wrongType := by
  unfold failed? at h
  split at h
  · rename_i hanswer
    exact nomatch hanswer
  · rename_i bytes hanswer
    unfold decodeResponse at h
    cases hdecode : Wire.decodeRecord bytes with
    | none =>
        rw [hdecode] at h
        exact Or.inl (Option.some.inj h).symm
    | some data =>
        cases hfields : Wire.Datum.toFields? data with
        | error failure' =>
            simp only [hdecode, hfields] at h
            obtain rfl := Option.some.inj h
            exact Or.inr (Or.inl (Wire.Datum.toFields?_error hfields))
        | ok fields => simp [hdecode, hfields] at h
  · exact Or.inr (Or.inr (Option.some.inj h).symm)

end Channel

/-- A failure that the remote service reported ends as its code tells. -/
theorem Operation.failedEnd_application (operation : Operation) (code : Value)
    (detail : String) :
    operation.failedEnd (Failure.application code detail) =
      operation.reportedEnd code (Failure.application code detail) := rfl

/-- An answer that cannot be read is an unexpected failure. -/
theorem Operation.failedEnd_unreadable (operation : Operation) {answer : Answer}
    {failure : Failure} (h : Channel.failed? (.ok answer) = some failure) :
    ∃ raised, operation.failedEnd failure = .error raised ∧
      raised.kind = .unexpected ∧
      (raised = failure ∨ raised.cause = some failure) := by
  rcases Channel.failed?_ok h with rfl | rfl | rfl
  · exact ⟨_, rfl, rfl, Or.inl rfl⟩
  · exact ⟨_, rfl, rfl, Or.inr rfl⟩
  · exact ⟨_, rfl, rfl, Or.inr rfl⟩

/-! ## The layers -/

namespace Future

theorem reference_recover {command : Channel.Command} {outcome : Outcome}
    {failure : Failure}
    (h : command.derivation.converted outcome = .error failure) :
    command.derivation.reference outcome =
      .error (if failure.kind.recoverable then command.recover failure
        else failure) := by
  unfold Derivation.reference
  rw [h]
  show (if failure.kind.recoverable then Except.error (command.recover failure)
    else .error failure) = _
  split <;> rfl

theorem conclude_leniency (operation : Operation) (failure : Failure) :
    conclude operation.leniency (.error failure) =
      if failure.kind = .alreadyInDesiredState ∧ operation.switches = true then
        Operation.nothingToDo
      else .error failure := by
  unfold Operation.leniency Operation.switches
  cases operation.suppression? with
  | none => simp [conclude]
  | some message =>
      show (Derivation.suppress message).reference (.error failure) = _
      unfold Derivation.reference
      by_cases hkind : failure.kind = .alreadyInDesiredState
      · simp only [Derivation.converted, Derivation.recovery, hkind]
        rfl
      · simp [Derivation.converted, Derivation.recovery, hkind]

/-! ## What callers see -/

/-- A reported code that is given its meaning, as a waiting caller sees it. -/
theorem observe_reported (operation : Operation) (reported : Value)
    (report : Failure) :
    Store.observe (conclude operation.leniency
      (.error ((operation.command.reportedFailure reported).following
        report))) =
      operation.reportedEnd reported report := by
  have hnumber : ∀ code : Channel.ErrorCode,
      reported.equal (.int code.number) =
        decide (Channel.ErrorCode.ofValue? reported = some code) := by
    intro code
    rw [Bool.eq_iff_iff, decide_eq_true_iff]
    exact Channel.ErrorCode.ofValue?_eq_some_iff.symm
  have h₁ := hnumber .invalidModule
  have h₂ := hnumber .invalidVersion
  have h₃ := hnumber .invalidInstances
  have h₄ := hnumber .transientError
  have h₅ := hnumber .unexpectedState
  simp only [Channel.ErrorCode.number] at h₁ h₂ h₃ h₄ h₅
  unfold Channel.Command.reportedFailure Operation.reportedEnd
  rw [h₁, h₂, h₃, h₄, h₅, operation.switches_command]
  cases Channel.ErrorCode.ofValue? reported with
  | none => rw [conclude_leniency]; rfl
  | some code =>
      cases code with
      | ok => rw [conclude_leniency]; rfl
      | invalidModule => rw [conclude_leniency]; rfl
      | invalidVersion => rw [conclude_leniency]; rfl
      | invalidInstances => rw [conclude_leniency]; rfl
      | transientError => rw [conclude_leniency]; rfl
      | unexpectedState =>
          rw [conclude_leniency]
          cases operation.switches <;> rfl

/-- The three layers together: every failing outcome of the channel ends as the
table tells. -/
theorem observe_conclude (operation : Operation) {outcome : Outcome}
    {failure : Failure} (h : Channel.failed? outcome = some failure) :
    Store.observe (conclude operation.stages outcome) =
      operation.failedEnd failure := by
  show Store.observe
    (conclude operation.leniency
      (operation.command.derivation.reference outcome)) = _
  rw [reference_recover (Channel.converted_of_failed? h operation.command)]
  unfold Operation.failedEnd
  cases hrecoverable : failure.kind.recoverable with
  | false =>
      have hkind : failure.kind ≠ .alreadyInDesiredState := by
        intro hkind
        rw [hkind] at hrecoverable
        exact absurd hrecoverable (by decide)
      simp only [Bool.false_eq_true, if_false, if_true]
      rw [conclude_leniency, if_neg fun h => hkind h.1, Store.observe_error,
        if_pos hrecoverable]
  | true =>
      simp only [if_true, Bool.true_eq_false, if_false]
      cases hevidence : failure.evidence with
      | code reported =>
          have hrecover : operation.command.recover failure =
              (operation.command.reportedFailure reported).following failure := by
            unfold Channel.Command.recover
            rw [hevidence]
          rw [hrecover]
          exact observe_reported operation reported failure
      | _ =>
          have hrecover : operation.command.recover failure = failure := by
            unfold Channel.Command.recover
            rw [hevidence]
          rw [hrecover, conclude_leniency]
          split
          · rfl
          · rw [Store.observe_error, if_neg (by simp [hrecoverable])]

/-- An answer that has a meaning is what the caller gets. -/
theorem observe_converted (operation : Operation) {given answer : Answer}
    (h : operation.command.convertAnswer given = .ok answer) :
    Store.observe (conclude operation.stages (.ok given)) = .ok answer := by
  have hconverted : operation.command.derivation.converted (.ok given) =
      .ok answer := h
  show Store.observe
    (conclude operation.leniency
      (operation.command.derivation.reference (.ok given))) = _
  unfold Derivation.reference Operation.leniency
  rw [hconverted]
  cases operation.suppression? <;> rfl

/-- An answer without a meaning is an unexpected failure, however the conversion
complains of it. -/
theorem observe_unconverted (operation : Operation) {given : Answer}
    {failure : Failure}
    (h : operation.command.convertAnswer given = .error failure)
    (hown : ∀ code, failure.evidence ≠ .code code)
    (hkind : failure.kind = .unexpected ∨ failure.kind = .wrongType ∨
      failure.kind = .wrongValue) :
    ∃ raised, Store.observe (conclude operation.stages (.ok given)) =
      .error raised ∧ raised.kind = .unexpected := by
  have hconverted : operation.command.derivation.converted (.ok given) =
      .error failure := h
  have hrecover : operation.command.recover failure = failure := by
    unfold Channel.Command.recover
    split
    · next code hevidence => exact absurd hevidence (hown code)
    · rfl
  show ∃ raised,
    Store.observe (conclude operation.leniency
      (operation.command.derivation.reference (.ok given))) = _ ∧ _
  rw [reference_recover hconverted, hrecover, ite_self, conclude_leniency,
    if_neg (by rcases hkind with hkind | hkind | hkind <;> simp [hkind])]
  rcases hkind with hkind | hkind | hkind <;>
    simp [Store.observe_error, hkind, Failure.Kind.recoverable,
      Failure.Kind.isA, Failure.Kind.broader, Failure.unexpected]

end Future
end HostedModules
