/-
HostedModules.Proofs.Steps — one step after another, each of which may fail.

Computations that may fail are taken apart at the places where they can: a
result is taken further, or two steps are put together.

* `Failure.map_eq_ok`, `Failure.map_eq_error_iff` — a step whose result is taken
  further
* `Failure.both_eq_ok`, `Failure.both_eq_error`, `Failure.both_fails_iff` — two
  steps and what is made of both
-/
import HostedModules.Failure

namespace HostedModules
namespace Failure

variable {α β γ : Type} {x : Except Failure α} {y : Except Failure β}

/-- A step whose result is taken further. -/
theorem map_eq_ok {f : α → β} {b : β} :
    x.map f = .ok b ↔ ∃ a, x = .ok a ∧ f a = b := by
  constructor
  · intro h
    cases x with
    | error failure => exact nomatch h
    | ok a => exact ⟨a, rfl, Except.ok.inj h⟩
  · rintro ⟨a, rfl, rfl⟩
    rfl

/-- What is made of a result does not change a failure. -/
theorem map_eq_error_iff {f : α → β} {failure : Failure} :
    x.map f = .error failure ↔ x = .error failure := by
  cases x with
  | error cause =>
      exact ⟨fun h => congrArg _ (Except.error.inj h),
        fun h => congrArg _ (Except.error.inj h)⟩
  | ok a => exact ⟨fun h => (nomatch h), fun h => (nomatch h)⟩

/-- Two steps, both of which succeed. -/
theorem both_eq_ok {f : α → β → γ} {c : γ} :
    (do let a ← x; let b ← y; pure (f a b)) = Except.ok c ↔
      ∃ a b, x = .ok a ∧ y = .ok b ∧ f a b = c := by
  constructor
  · intro h
    cases x with
    | error failure => exact nomatch h
    | ok a =>
        cases y with
        | error failure => exact nomatch h
        | ok b => exact ⟨a, b, rfl, rfl, Except.ok.inj h⟩
  · rintro ⟨a, b, rfl, rfl, rfl⟩
    rfl

/-- Two steps, one of which fails. -/
theorem both_eq_error {f : α → β → γ} {failure : Failure}
    (h : (do let a ← x; let b ← y; pure (f a b)) = Except.error failure) :
    x = .error failure ∨ y = .error failure := by
  cases x with
  | error first => exact Or.inl (congrArg Except.error (Except.error.inj h))
  | ok a =>
      cases y with
      | error second =>
          exact Or.inr (congrArg Except.error (Except.error.inj h))
      | ok b => exact nomatch h

/-- Two steps fail if either of them does. -/
theorem both_fails_iff {f : α → β → γ} :
    (∃ failure, (do let a ← x; let b ← y; pure (f a b)) =
      Except.error failure) ↔
      (∃ failure, x = .error failure) ∨ ∃ failure, y = .error failure := by
  constructor
  · rintro ⟨failure, h⟩
    exact (both_eq_error h).imp (fun hx => ⟨failure, hx⟩) fun hy =>
      ⟨failure, hy⟩
  · rintro (⟨failure, rfl⟩ | ⟨failure, rfl⟩)
    · exact ⟨failure, rfl⟩
    · cases x with
      | error first => exact ⟨first, rfl⟩
      | ok a => exact ⟨failure, rfl⟩

end Failure
end HostedModules
