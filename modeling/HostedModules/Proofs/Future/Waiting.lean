/-
HostedModules.Proofs.Future.Waiting — what callers are told that wait for a
future.

A wait ends with the future or with its limit, and what it ends with then passes
through one more layer, in which failures that callers are not meant to see are
wrapped.

* `Future.Expires` — the limits that are reached if the future does not end
* `Store.observe_error` — a failure as waiting callers see it
* `Store.wait_tells` — a wait for every state of the future and every limit
* `Store.awaited_timeout_leaves` — a timeout that callers take for the end of
  their own wait
-/
import HostedModules.Proofs.Future.Ended

namespace HostedModules

namespace Failure.Kind

theorem eq_cancelled {kind : Kind} (h : kind.isA .cancelled = true) :
    kind = .cancelled := by
  cases kind <;> simp [isA, broader] at h ⊢

/-- Failures of this library, of the set-up, and fatal ones. -/
def Shown (kind : Kind) : Prop :=
  kind.isA .modules = true ∨ kind.isA .configuration = true ∨
    kind.recoverable = false

end Failure.Kind

/-! ## Limits -/

namespace Future

/-- The limit is a number and not too long, so it is reached if the future does
not end. -/
def Expires (limit : Value) : Prop :=
  ∃ seconds, limit.quantity? = some seconds ∧
    (Quantity.ofInt longestWait).less (seconds.times nanosecondsPerSecond) = false

/-- Only a wait without a limit goes on for ever. -/
theorem expiry?_eq_none_iff {limit : Value} :
    expiry? limit = none ↔ limit = .null := by
  unfold expiry?
  cases limit with
  | null => simp
  | _ =>
      simp only [reduceCtorEq, iff_false]
      split
      · simp
      · split <;> simp

theorem Expires.expiry? {limit : Value} (h : Expires limit) :
    Future.expiry? limit = some (Failure.unworded .timeout) := by
  obtain ⟨seconds, hseconds, hshort⟩ := h
  unfold Future.expiry?
  cases limit with
  | null => cases hseconds
  | _ => simp [hseconds, hshort]

/-- A limit that is not reached ends the wait all the same, as no number or as
too long. -/
theorem expiry?_of_not_expires {limit : Value} (hlimit : limit ≠ .null)
    (h : ¬ Expires limit) :
    ∃ failure, expiry? limit = some failure ∧ failure.text = none ∧
      (failure.kind = .wrongType ∨ failure.kind = .overflow) := by
  unfold expiry?
  cases hseconds : limit.quantity? with
  | none =>
      refine ⟨Failure.wrongType, ?_, rfl, .inl rfl⟩
      cases limit <;> simp_all
  | some seconds =>
      have hlong : (Quantity.ofInt longestWait).less
          (seconds.times nanosecondsPerSecond) = true := by
        simpa [Expires, hseconds] using h
      refine ⟨Failure.unworded .overflow, ?_, rfl, .inr rfl⟩
      cases limit <;> simp_all

theorem isA_timeout_of_expiry? {limit : Value} {failure : Failure}
    (h : expiry? limit = some failure) :
    failure.kind.isA .timeout = true ↔ Expires limit := by
  by_cases hexpires : Expires limit
  · obtain rfl := Option.some.inj (hexpires.expiry?.symm.trans h)
    exact iff_of_true rfl hexpires
  · have hlimit : limit ≠ .null := by
      rintro rfl
      cases h
    obtain ⟨other, hother, -, hkind⟩ := expiry?_of_not_expires hlimit hexpires
    obtain rfl := Option.some.inj (hother.symm.trans h)
    refine iff_of_false ?_ hexpires
    rcases hkind with hkind | hkind <;> rw [hkind] <;> decide

end Future

namespace Store

open Future

/-! ## The layer around a wait -/

/-- What a waiting caller sees of a failure. -/
theorem observe_error (failure : Failure) :
    observe (.error failure) =
      if failure.kind.recoverable = false then .error failure
      else if failure.kind.isA .modules ∨ failure.kind.isA .configuration ∨
        failure.kind.isA .timeout then
        .error failure
      else if failure.kind.isA .cancelled then
        .error (.unexpected (some "Unexpected failure: call was cancelled") failure)
      else .error (.unexpected (failure.quoting "Unexpected failure: ")
        failure) := by
  simp only [observe, Failure.Kind.domain]
  cases hcancelled : failure.kind.isA .cancelled with
  | true =>
      have hkind := Failure.Kind.eq_cancelled hcancelled
      simp [hkind, Failure.Kind.isA, Failure.Kind.recoverable,
        Failure.Kind.broader]
  | false =>
      rcases Bool.eq_false_or_eq_true failure.kind.recoverable with hr | hr <;>
        rcases Bool.eq_false_or_eq_true
          (failure.kind.isA .timeout) with ht | ht <;>
          simp [hr, ht]

theorem observe_shown {failure : Failure} (h : failure.kind.Shown) :
    observe (.error failure) = .error failure := by
  rw [observe_error]
  rcases h with hmodules | hconfiguration | hfatal
  · simp [hmodules]
  · simp [hconfiguration]
  · simp [hfatal]

theorem observe_cancelled {failure : Failure}
    (h : failure.kind.isA .cancelled = true) :
    observe (.error failure) =
      .error (.unexpected (some "Unexpected failure: call was cancelled")
        failure) := by
  have hkind := Failure.Kind.eq_cancelled h
  simp [observe_error, hkind, Failure.Kind.isA, Failure.Kind.recoverable,
    Failure.Kind.broader]

theorem observe_hidden {failure : Failure} (h : ¬ failure.kind.Shown)
    (hcancelled : failure.kind.isA .cancelled = false)
    (htimeout : failure.kind.isA .timeout = false) :
    observe (.error failure) =
      .error (.unexpected (failure.quoting "Unexpected failure: ") failure) := by
  simp only [Failure.Kind.Shown, not_or, Bool.not_eq_true, Bool.not_eq_false] at h
  simp [observe_error, h, hcancelled, htimeout]

/-- Callers are told of a timeout exactly if the outcome is one: nothing else is
turned into a timeout, and no timeout into anything else. -/
theorem observe_timeout {outcome : Outcome} {raised : Failure}
    (h : observe outcome = .error raised) :
    raised.kind.isA .timeout = true ↔ ∃ failure, outcome = .error failure ∧
      failure.kind.isA .timeout = true := by
  have hunexpected : Failure.Kind.isA .unexpected .timeout = false := rfl
  cases outcome with
  | ok answer => cases h
  | error failure =>
      simp only [Except.error.injEq, exists_eq_left']
      rw [observe_error] at h
      split at h
      · obtain rfl := Except.error.inj h
        exact Iff.rfl
      · split at h
        · obtain rfl := Except.error.inj h
          exact Iff.rfl
        · next hhidden =>
            have htimeout : failure.kind.isA .timeout = false := by simp_all
            split at h <;> obtain rfl := Except.error.inj h <;>
              simp [Failure.unexpected, hunexpected, htimeout]

/-- What a caller is told that waits for a future in this state. -/
theorem wait?_eq {store : Store} {id : Nat} {status : Status}
    (h : store.status? id = some status) (limit : Value) :
    store.wait? limit id =
      (status.outcome?.or ((expiry? limit).map .error)).map observe := by
  rw [wait?, result?, outcome?, h]
  rfl

/-- **What a caller that waits is told.**  The answer of a future that has one.
The failure of one that has failed, if callers are meant to see it.  That the
call was cancelled, if it was.  Any other failure but a timeout as unexpected,
with that failure as its cause.  While the future has not ended, only a wait
without a limit goes on.  Callers are told of a timeout exactly if their limit
was reached before the end, or if the failure of the future is a timeout itself,
which no caller can tell apart.  Once the future has ended, all waits tell the
same, whatever their limits and whatever happens later. -/
theorem wait_tells {store : Store} {id : Nat} {status : Status}
    (h : store.status? id = some status) (limit : Value) :
    (∀ answer, status = .finished (.ok answer) →
      store.wait? limit id = some (.ok answer)) ∧
    (∀ failure, status = .finished (.error failure) → failure.kind.Shown →
      store.wait? limit id = some (.error failure)) ∧
    (∀ failure, status = .cancelled ∧ failure = cancellation ∨
        status = .finished (.error failure) ∧
          failure.kind.isA .cancelled = true →
      store.wait? limit id = some
          (.error (.unexpected (some "Unexpected failure: call was cancelled")
            failure))) ∧
    (∀ failure, status = .finished (.error failure) → ¬ failure.kind.Shown →
      failure.kind.isA .cancelled = false → failure.kind.isA .timeout = false →
      ∃ raised, store.wait? limit id = some (.error raised) ∧
        raised.kind = .unexpected ∧
        raised.text = failure.quoting "Unexpected failure: " ∧
          raised.cause = some failure ∧
        raised.subject? = some failure) ∧
    (status = .waiting → (store.wait? limit id = none ↔ limit = .null) ∧
      (Expires limit →
        store.wait? limit id = some (.error (.unworded .timeout))) ∧
      (limit ≠ .null → ¬ Expires limit → ∃ failure,
        store.wait? limit id = some (.error (.unexpected none failure)) ∧
          (failure.kind = .wrongType ∨ failure.kind = .overflow))) ∧
    (∀ raised, store.wait? limit id = some (.error raised) →
      (raised.kind.isA .timeout = true ↔
        status = .waiting ∧ Expires limit ∨
        ∃ failure, status = .finished (.error failure) ∧
          failure.kind.isA .timeout = true)) ∧
    (status ≠ .waiting → ∀ (later : Store) (other : Value),
      store.Extends later →
      later.wait? other id = store.wait? limit id) := by
  have hwait := wait?_eq h limit
  rw [hwait]
  refine ⟨?_, ?_, ?_, ?_, ?_, ?_, ?_⟩
  · rintro answer rfl
    rfl
  · rintro failure rfl hshown
    exact congrArg some (observe_shown hshown)
  · rintro failure (⟨rfl, rfl⟩ | ⟨rfl, hcancelled⟩)
    · exact congrArg some (observe_cancelled rfl)
    · exact congrArg some (observe_cancelled hcancelled)
  · rintro failure rfl hhidden hcancelled htimeout
    exact ⟨_, congrArg some (observe_hidden hhidden hcancelled htimeout), rfl,
      rfl, rfl, rfl⟩
  · rintro rfl
    refine ⟨?_, ?_, ?_⟩
    · simp [Status.outcome?, expiry?_eq_none_iff]
    · intro hexpires
      rw [hexpires.expiry?]
      rfl
    · intro hlimit hlong
      obtain ⟨failure, hexpiry, htext, hkind⟩ :=
        expiry?_of_not_expires hlimit hlong
      have hunexpected :
          observe (.error failure) = .error (.unexpected none failure) := by
        rw [observe_hidden, Failure.quoting, htext, Option.map_none] <;>
          rcases hkind with hkind | hkind <;>
          simp [Failure.Kind.Shown, hkind, Failure.Kind.isA,
            Failure.Kind.recoverable, Failure.Kind.broader]
      refine ⟨failure, ?_, hkind⟩
      rw [hexpiry, ← hunexpected]
      rfl
  · intro raised hraised
    obtain ⟨outcome, houtcome, hobserved⟩ := Option.map_eq_some_iff.1 hraised
    rw [observe_timeout hobserved]
    cases status with
    | waiting =>
        obtain ⟨failure, hexpiry, rfl⟩ := Option.map_eq_some_iff.1 houtcome
        simp only [Except.error.injEq, exists_eq_left', reduceCtorEq, false_and,
          exists_false, or_false, true_and]
        exact isA_timeout_of_expiry? hexpiry
    | finished ending =>
        obtain rfl := Option.some.inj houtcome
        simp
    | cancelled =>
        obtain rfl := Option.some.inj houtcome
        simp [cancellation, Failure.unworded, Failure.Kind.isA,
          Failure.Kind.broader]
  · intro hended later other hextends
    cases houtcome : status.outcome? with
    | none => exact absurd (Status.outcome?_eq_none_iff.1 houtcome) hended
    | some outcome =>
        have hnow : store.outcome? id = some outcome := by
          rw [outcome?, h, Option.bind_some, houtcome]
        rw [wait?, result?, hextends.outcome? hnow]
        rfl

/-- Work that ended because a key was missing is waited for without a limit. -/
theorem wait_tells_missing_key :
    ∃ raised, (Store.empty.submit (.error (.missingKey "id"))).2.wait? .null 0 =
      some (.error raised) ∧
      raised.kind = .unexpected ∧ raised.cause = some (.missingKey "id") ∧
        raised.kind.isA .timeout = false := by
  have hstatus : (Store.empty.submit (.error (.missingKey "id"))).2.status? 0 =
      some (.finished (.error (.missingKey "id"))) := rfl
  obtain ⟨-, -, -, hhidden, -, -, -⟩ := wait_tells hstatus .null
  obtain ⟨raised, hraised, hkind, -, hcause, -⟩ := hhidden _ rfl
    (by
      simp [Failure.Kind.Shown, Failure.missingKey, Failure.plain,
        Failure.Kind.isA, Failure.Kind.recoverable,
      Failure.Kind.broader]) rfl rfl
  refine ⟨raised, hraised, hkind, hcause, ?_⟩
  rw [hkind]
  rfl

/-- The channel gives up on its socket. -/
def socketTimeout : Failure := .plain .timeout "socket timed out"

/-- A wait without a limit, for a future that has failed, ends with a
timeout. -/
theorem awaited_timeout_leaves :
    ¬ ∀ (store : Store) (id : Nat) (limit : Value) (raised : Failure),
      store.wait? limit id = some (.error raised) →
      raised.kind.isA .timeout = true → store.status? id = some .waiting ∧
        limit ≠ .null := by
  intro h
  have hset : SetBy [.create, .set 0 (.error socketTimeout)] 0
      (.error socketTimeout) := ⟨[.create], [], rfl, rfl⟩
  have hwaited :
      (after [.create, .set 0 (.error socketTimeout)]).wait? .null 0 =
      some (.error socketTimeout) := by
    rw [wait?, result?, hset.outcome?]
    rfl
  exact (h _ 0 .null socketTimeout hwaited rfl).2 rfl

end Store
end HostedModules
