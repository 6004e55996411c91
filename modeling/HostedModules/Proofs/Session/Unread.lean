/-
HostedModules.Proofs.Session.Unread — answers that cannot be read, as the
futures of calls tell them.

A caller that keeps a future and looks at it later has no wait to put a failure
into the words of this library.  What the future holds is what the reading of
the answer ended with.

* `Channel.UnreadAs` — the two ways in which bytes are not read
* `Carries.unread` — a call whose answer cannot be read holds the failure of the
  reading
* `Session.unread_answers` — how answers fail to be read, and what the futures
  of their calls hold
-/
import HostedModules.Proofs.Channel.Readable
import HostedModules.Proofs.Session.Carried
import HostedModules.Proofs.Wire.RoundTrip

namespace HostedModules

open Future

namespace Channel

/-- Bytes are not read, and told of like this: bytes that are no message as an
unexpected failure that follows from the complaint of the decoder, and a number
that is not finite as a bare complaint that follows from nothing. -/
structure UnreadAs (bytes : List UInt8) (failure : Failure) : Prop where
  malformed : Wire.decodeRecord bytes = none → failure.kind = .unexpected ∧
    failure.text = some "Unexpected failure: malformed response" ∧
      failure.cause = some (.unworded .malformedMessage)
  boundless : Boundless bytes → failure.kind = .wrongValue ∧
    failure.cause = none
  unread : Wire.decodeRecord bytes = none ∨ Boundless bytes

theorem unreadAs_of_decodeResponse {bytes : List UInt8} {failure : Failure}
    (h : decodeResponse bytes = .error failure) : UnreadAs bytes failure := by
  rcases decodeResponse_eq_error h with ⟨rfl, hwire⟩ | ⟨rfl, hboundless⟩
  · refine ⟨fun _ => ⟨rfl, rfl, rfl⟩, ?_, .inl hwire⟩
    rintro ⟨fields, hfields, -⟩
    exact nomatch hwire.symm.trans hfields
  · refine ⟨?_, fun _ => ⟨rfl, rfl⟩, .inr hboundless⟩
    intro hwire
    exact nomatch (decodeResponse_malformed_iff.2 hwire).symm.trans h

end Channel

namespace Session

open Channel

/-- A call whose answer cannot be read holds the failure of the reading, as it
is. -/
theorem Carries.unread {store : Store} {source : Nat} {operation : Operation}
    (h : Carries store source operation) (hs : Steady store)
    {bytes : List UInt8} {failure : Failure}
    (hended : store.outcome? source = some (.ok (.value (.bytes bytes))))
    (hunread : decodeResponse bytes = .error failure) :
    store.outcome? (source + operation.stages.length) = some (.error failure) := by
  rw [h.outcome? hs, hended]
  exact congrArg some (operation.conclude_unread hunread)

/-- **Answers that cannot be read.**  Bytes are read unless they are no message
or hold, at whatever depth, a number that is infinite or undefined;
`Channel.UnreadAs` says how either is told.  Take a call for which the channel
handed out a future, in any process and after any steps.  If the channel has
answered it with bytes that are not read, then the future that the caller keeps
holds just what the reading ended with: an unexpected failure for bytes that are
no message, but the bare complaint about the number for the others. -/
theorem unread_answers (service : Service) (environment : Environment)
    (override : Option Bool) (earlier later : List Step) (call : Call)
    (backends : Backends) (source : Nat)
    (horderly : Orderly service (initial environment override)
      (earlier ++ .launch call backends :: later))
    (hsource :
      (take service (after service (initial environment override) earlier)
        (.launch call backends)).source = some source) :
    let before := after service (initial environment override) earlier
    let now := after service (initial environment override)
      (earlier ++ .launch call backends :: later)
    (∀ bytes failure, decodeResponse bytes = .error failure →
      UnreadAs bytes failure) ∧
      (∀ bytes, (∃ response, decodeResponse bytes = .ok response) ↔
        Wire.decodeRecord bytes ≠ none ∧ ¬ Boundless bytes) ∧
      ∃ future, (take service before (.launch call backends)).report =
        .ok (.future future) ∧
        ∀ bytes, now.store.outcome? source =
          some (.ok (.value (.bytes bytes))) →
          Wire.decodeRecord bytes = none ∨ Boundless bytes →
          ∃ failure, now.store.outcome? future = some (.error failure) ∧
            UnreadAs bytes failure := by
  intro before now
  obtain ⟨hearlier, hlater⟩ := orderly_append.1 horderly
  have hbefore : Steady before.store := steady_after hearlier
  obtain ⟨operation, rfl, -, hmakes, hcarries⟩ :=
    carries_of_source hbefore hsource hlater.2
  rw [← after_append] at hcarries
  refine ⟨fun _ _ => unreadAs_of_decodeResponse, fun _ => decodeResponse_ok_iff,
    _, hmakes.launched, ?_⟩
  intro bytes hended hunread
  cases hdecode : decodeResponse bytes with
  | error failure =>
      exact ⟨failure, hcarries.unread (steady_after horderly) hended hdecode,
        unreadAs_of_decodeResponse hdecode⟩
  | ok response =>
      obtain ⟨hwire, hboundless⟩ := decodeResponse_ok_iff.1 ⟨response, hdecode⟩
      exact absurd hunread (by simp [hwire, hboundless])

/-- A response whose only number is infinite. -/
def infiniteAnswer : List UInt8 :=
  Wire.encodeRecord [("instances", .number ⟨0x7FF0000000000000⟩)]

theorem boundless_infiniteAnswer : Boundless infiniteAnswer := by
  have hkeyed :
      (Wire.Datum.record [("instances", .number ⟨0x7FF0000000000000⟩)]).Keyed :=
    ⟨by decide, True.intro, True.intro⟩
  exact ⟨_, Wire.decodeRecord_encodeRecord hkeyed (by decide)
    (by decide +kernel),
    _, .field List.mem_cons_self .number, by decide⟩

/-- The question for all modules, on a channel that holds the call back. -/
def keepModules : Step := .launch .modules ⟨.error .wrongType, [], .pending⟩

/-- The channel answers with an infinite number, and the future that the caller
keeps has failed without a word of this library. -/
theorem unread_answers_infinite :
    Orderly shop fresh [keepModules,
      .settle 0 (.ok (.value (.bytes infiniteAnswer)))] ∧
      (take shop fresh keepModules).source = some 0 ∧
      (after shop fresh [keepModules,
        .settle 0 (.ok (.value (.bytes infiniteAnswer)))]).store.outcome? 0 =
        some (.ok (.value (.bytes infiniteAnswer))) ∧
      Boundless infiniteAnswer ∧
      ∃ failure,
        (after shop fresh [keepModules,
          .settle 0 (.ok (.value (.bytes infiniteAnswer)))]).store.outcome? 1 =
        some (.error failure) ∧ failure.kind = .wrongValue ∧
          failure.cause = none := by
  have hmakes := makes_first .modules ⟨.error .wrongType, [], .pending⟩
    rfl ⟨_, rfl⟩ rfl
  obtain ⟨horderly, hsource, hended⟩ :=
    ended_first hmakes rfl (.ok (.value (.bytes infiniteAnswer)))
  obtain ⟨-, -, future, hreport, hanswers⟩ :=
    unread_answers shop ⟨[]⟩ none []
      [.settle 0 (.ok (.value (.bytes infiniteAnswer)))] _ _ 0 horderly hsource
  obtain rfl := hmakes.eq_of_launched hreport
  obtain ⟨failure, hfailure, hunread⟩ :=
    hanswers _ hended (.inr boundless_infiniteAnswer)
  exact ⟨horderly, hsource, hended, boundless_infiniteAnswer, failure, hfailure,
    hunread.boundless boundless_infiniteAnswer⟩

/-- Not every failure to read an answer is an unexpected failure that follows
from another. -/
theorem infinite_number_leaves :
    ¬ ∀ bytes, (∃ response, decodeResponse bytes = .ok response) ∨
    ∃ failure, decodeResponse bytes = .error failure ∧
      failure.kind = .unexpected ∧ failure.cause ≠ none := by
  intro hall
  have hinfinite : decodeResponse infiniteAnswer = .error boundlessNumber :=
    decodeResponse_of_boundless boundless_infiniteAnswer
  rcases hall infiniteAnswer with ⟨response, hread⟩ | ⟨failure, hfailure, hkind, -⟩
  · exact nomatch hinfinite.symm.trans hread
  · obtain rfl := Except.error.inj (hinfinite.symm.trans hfailure)
    exact nomatch hkind

end Session
end HostedModules
