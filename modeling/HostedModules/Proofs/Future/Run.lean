/-
HostedModules.Proofs.Future.Run — runs of the operations on futures.

* `Store.Op` — the operations, each naming futures by their numbers
* `Store.step` — one operation; an operation on a future that does not exist
  does nothing
* `Store.after`, `Store.trace` — the store after a run from the empty store, and
  everything that happened
* `Store.SetBy` — a run sets a future from outside
* `step_cases` — all that an operation can do
-/
import Mathlib.Data.List.Induction
import HostedModules.Proofs.Future.Evolution

namespace HostedModules
namespace Store

open Future

/-- An operation on futures.  Work that is still under way when it is submitted
is a future that is created now and set by its worker later. -/
inductive Op where
  | create
  | submit (outcome : Outcome)
  | set (id : Nat) (outcome : Outcome)
  | cancel (id : Nat)
  | derive (source : Nat) (derivation : Derivation)

/-- The store after an operation, and what happened meanwhile. -/
def step (store : Store) : Op → Store × List Event
  | .create => (store.create.2, [])
  | .submit outcome => ((store.submit outcome).2, [])
  | .set id outcome =>
    match store.set id outcome with
    | .ok result => result
    | .error _ => (store, [])
  | .cancel id => (store.cancel id).2
  | .derive source derivation =>
    if source < store.next then (store.derive source derivation).2
      else (store, [])

/-- The store after a run, and everything that happened in it. -/
def history (ops : List Op) : Store × List Event :=
  ops.foldl (fun sofar op =>
    ((sofar.1.step op).1, sofar.2 ++ (sofar.1.step op).2)) (.empty, [])

/-- The store after a run from the empty store. -/
def after (ops : List Op) : Store := (history ops).1

/-- Everything that happened in a run from the empty store. -/
def trace (ops : List Op) : List Event := (history ops).2

@[simp] theorem after_nil : after [] = .empty := rfl

@[simp] theorem trace_nil : trace [] = [] := rfl

theorem after_concat (ops : List Op) (op : Op) :
    after (ops ++ [op]) = ((after ops).step op).1 := by
  simp [after, history]

theorem trace_concat (ops : List Op) (op : Op) :
    trace (ops ++ [op]) = trace ops ++ ((after ops).step op).2 := by
  simp [trace, after, history]

/-- The run sets the future from outside while it is open. -/
def SetBy (ops : List Op) (id : Nat) (outcome : Outcome) : Prop :=
  ∃ earlier later, ops = earlier ++ .set id outcome :: later ∧
    (after earlier).isOpen id = true

/-- A longer run sets a future if the run did so already, or if its last
operation does. -/
theorem setBy_concat {ops : List Op} {op : Op} {id : Nat} {outcome : Outcome} :
    SetBy (ops ++ [op]) id outcome ↔
      SetBy ops id outcome ∨ op = .set id outcome ∧
        (after ops).isOpen id = true := by
  constructor
  · rintro ⟨earlier, later, h, hopen⟩
    rcases List.eq_nil_or_concat later with rfl | ⟨later', last, rfl⟩
    · obtain ⟨rfl, h'⟩ := List.append_inj' h rfl
      exact Or.inr ⟨by simpa using h', hopen⟩
    · rw [List.concat_eq_append, ← List.cons_append, ← List.append_assoc] at h
      exact Or.inl ⟨earlier, later', (List.append_inj' h rfl).1, hopen⟩
  · rintro (⟨earlier, later, rfl, hopen⟩ | ⟨rfl, hopen⟩)
    · exact ⟨earlier, later ++ [op], by simp, hopen⟩
    · exact ⟨ops, [], rfl, hopen⟩

theorem SetBy.mem {ops : List Op} {id : Nat} {outcome : Outcome}
    (h : SetBy ops id outcome) :
    Op.set id outcome ∈ ops := by
  obtain ⟨earlier, later, rfl, -⟩ := h
  exact List.mem_append_right _ List.mem_cons_self

/-! ## What an operation can do -/

/-- Only an open future that is derived from none is cancelled, and every such
one. -/
theorem cancel_cases (store : Store) (id : Nat) :
    (store.isOpen id = true ∧ store.origin? id = none ∧
        store.cancel id = (true, store.finish id .cancelled)) ∨
      (store.origin? id = none → store.isOpen id = false) ∧ ∃ answer,
        store.cancel id = (answer, store, []) := by
  unfold cancel origin? isOpen
  split
  · next h => exact Or.inl ⟨by simp [h, Cell.open, Status.open], by simp [h], rfl⟩
  · next h => exact Or.inr ⟨by simp [h, Cell.open, Status.open], true, rfl⟩
  · next hpending _ =>
      refine Or.inr ⟨fun hroot => ?_, false, rfl⟩
      rcases hcell : store.cell? id with _ | ⟨origin, status⟩
      · rfl
      · rw [hcell] at hroot hpending
        obtain rfl : origin = none := hroot
        cases status with
        | waiting => exact absurd rfl hpending
        | finished outcome => rfl
        | cancelled => rfl

/-- An operation adds a future that is derived from none, ends an open future,
derives one from a future that exists, or does nothing; it never does nothing
when it sets an open future. -/
theorem step_cases {store : Store} {motive : Op → Store × List Event → Prop}
    (add : ∀ op status, (∀ id outcome, op ≠ .set id outcome) →
      motive op (store.add ⟨none, status⟩, []))
    (set : ∀ id outcome, store.isOpen id = true →
      motive (.set id outcome) (store.finish id (.finished outcome)))
    (cancel : ∀ id, store.isOpen id = true → store.origin? id = none →
      motive (.cancel id) (store.finish id .cancelled))
    (derive : ∀ source derivation, source < store.next →
      motive (.derive source derivation)
      (settle [⟨stackRoom, store.next⟩]
        (store.add ⟨some (source, derivation), .waiting⟩)))
    (idle : ∀ op, (∀ id outcome, op = .set id outcome →
      store.isOpen id = false) → motive op (store, []))
    (op : Op) : motive op (store.step op) := by
  cases op with
  | create => exact add _ .waiting (by simp)
  | submit outcome => exact add _ (.finished outcome) (by simp)
  | set id outcome =>
      cases hopen : store.isOpen id with
      | true => simpa [step, Store.set, hopen] using set id outcome hopen
      | false =>
          have := idle (.set id outcome) (by rintro _ _ ⟨rfl, rfl⟩; exact hopen)
          simpa [step, Store.set, hopen] using this
  | cancel id =>
      show motive _ (store.cancel id).2
      rcases cancel_cases store id with ⟨hopen, hroot, heq⟩ | ⟨-, answer, heq⟩
      · rw [heq]; exact cancel id hopen hroot
      · rw [heq]; exact idle _ (by simp)
  | derive source derivation =>
      by_cases hlt : source < store.next
      · simpa [step, hlt, Store.derive] using derive source derivation hlt
      · simpa [step, hlt] using idle (.derive source derivation) (by simp)

/-- No operation undoes anything. -/
theorem step_extends (store : Store) (op : Op) :
    store.Extends (store.step op).1 := by
  refine step_cases (motive := fun _ result => store.Extends result.1) ?_ ?_ ?_ ?_ ?_ op
  · intro _ status _
    exact extends_add store _
  · intro id outcome hopen
    exact finish_extends _ hopen
  · intro id hopen _
    exact finish_extends _ hopen
  · intro source derivation _
    exact (extends_add store _).trans (settle_extends _ _)
  · intro _ _
    exact Extends.refl store

theorem after_extends (ops more : List Op) :
    (after ops).Extends (after (ops ++ more)) := by
  induction more using List.reverseRecOn with
  | nil => rw [List.append_nil]; exact Extends.refl _
  | append_singleton more op ih =>
      rw [← List.append_assoc, after_concat]
      exact ih.trans (step_extends _ op)

theorem SourcesFirst.step {store : Store} (hfirst : store.SourcesFirst)
    (op : Op) : (store.step op).1.SourcesFirst := by
  refine step_cases (motive := fun _ result => result.1.SourcesFirst)
    ?_ ?_ ?_ ?_ ?_ op
  · intro _ status _
    exact hfirst.addRoot status
  · intro id outcome _
    exact hfirst.finish id _
  · intro id _ _
    exact hfirst.finish id _
  · intro source derivation hlt
    exact hfirst.derive hlt derivation
  · intro _ _
    exact hfirst

/-- In every run, derived futures are younger than their sources. -/
theorem sourcesFirst_after (ops : List Op) : (after ops).SourcesFirst := by
  induction ops using List.reverseRecOn with
  | nil => exact fun _ _ _ ho => by simp [origin?, cell?, empty] at ho
  | append_singleton ops op ih => rw [after_concat]; exact ih.step op

/-- A future that a run sets keeps that outcome. -/
theorem SetBy.outcome? {ops : List Op} {id : Nat} {outcome : Outcome}
    (h : SetBy ops id outcome) :
    (after ops).outcome? id = some outcome := by
  obtain ⟨earlier, later, rfl, hopen⟩ := h
  rw [show earlier ++ Op.set id outcome :: later =
    (earlier ++ [Op.set id outcome]) ++ later by simp]
  refine (after_extends (earlier ++ [Op.set id outcome]) later).outcome? ?_
  rw [after_concat]
  simp only [step, Store.set, hopen, if_true]
  exact outcome?_finish_self (lt_next_of_isOpen hopen) rfl

end Store
end HostedModules
