/-
HostedModules.Proofs.Future.Ended — futures that have ended stay as they ended.

A future ends once.  Later operations are refused, answer without effect, or end
other futures; a wait never changes anything.

* `Future.Phase` — pending, running, done or cancelled, as callers tell the
  states of futures apart
* `Store.Act` — an operation on futures, or a wait
* `Store.act` — one act: what the caller is told, the store after it, and what
  happened meanwhile
* `uncancelled_afterActs` — no derived future is ever cancelled
* `ended_futures_stay` — in every run, futures that have ended stay, and derived
  ones cannot be cancelled
-/
import HostedModules.Proofs.Future.Run

namespace HostedModules

namespace Future

/-- The states of a future as callers tell them apart. -/
inductive Phase where
  /-- Nothing has begun to run it, so it can be cancelled. -/
  | pending
  | running
  | done
  | cancelled
deriving DecidableEq, Repr

/-- The state of a future as callers see it.  A derived future runs from the
moment that it is made. -/
def Cell.phase (cell : Cell) : Phase :=
  match cell.status with
  | .waiting => if cell.origin.isSome then .running else .pending
  | .finished _ => .done
  | .cancelled => .cancelled

/-- The future is done or cancelled. -/
def Phase.ended : Phase → Bool
  | .done => true
  | .cancelled => true
  | _ => false

@[simp] theorem Cell.ended_phase (cell : Cell) :
    cell.phase.ended = !cell.open := by
  obtain ⟨origin, status⟩ := cell
  cases status with
  | waiting => cases origin <;> rfl
  | finished outcome => rfl
  | cancelled => rfl

end Future

namespace Store

open Future

/-! ## Acts -/

/-- What a caller may do with futures. -/
inductive Act where
  | perform (op : Op)
  /-- Wait for a future, so long at most. -/
  | wait (id : Nat) (limit : Value)

/-- What a caller is told. -/
inductive Told where
  | done
  /-- The number of the future that was made. -/
  | future (id : Nat)
  | flag (answer : Bool)
  | refused (failure : Failure)
  /-- How a wait ended. -/
  | waited (outcome : Outcome)
  /-- The wait goes on. -/
  | blocked

/-- What the caller of an operation is told. -/
def reply (store : Store) : Op → Told
  | .create => .future store.create.1
  | .submit outcome => .future (store.submit outcome).1
  | .set id outcome =>
    match store.set id outcome with
    | .ok _ => .done
    | .error failure => .refused failure
  | .cancel id => .flag (store.cancel id).1
  | .derive source derivation => .future (store.derive source derivation).1

/-- One act: what the caller is told, the store after it, and what happened
meanwhile. -/
def act (store : Store) : Act → Told × Store × List Event
  | .perform op => (store.reply op, store.step op)
  | .wait id limit =>
    match store.wait? limit id with
    | some outcome => (.waited outcome, store, [])
    | none => (.blocked, store, [])

/-- The store after some acts from the empty store. -/
def afterActs (acts : List Act) : Store :=
  acts.foldl (fun store a => (store.act a).2.1) .empty

/-- The operation of an act, if it is one. -/
def Act.op? : Act → Option Op
  | .perform op => some op
  | .wait _ _ => none

theorem act_wait (store : Store) (id : Nat) (limit : Value) :
    (store.act (.wait id limit)).2 = (store, []) := by
  simp only [act]
  cases store.wait? limit id <;> rfl

theorem afterActs_concat (acts : List Act) (a : Act) :
    afterActs (acts ++ [a]) = ((afterActs acts).act a).2.1 := by
  simp [afterActs, List.foldl_append]

/-- Waits leave no trace in a run. -/
theorem afterActs_eq (acts : List Act) :
    afterActs acts = after (acts.filterMap Act.op?) := by
  induction acts using List.reverseRecOn with
  | nil => rfl
  | append_singleton acts a ih =>
      rw [afterActs_concat, List.filterMap_append]
      cases a with
      | perform op => exact ih ▸ (after_concat _ op).symm
      | wait id limit =>
          rw [act_wait, ih]
          exact congrArg after (List.append_nil _).symm

theorem act_extends (store : Store) (a : Act) :
    store.Extends (store.act a).2.1 := by
  cases a with
  | perform op => exact step_extends store op
  | wait id limit => rw [act_wait]; exact Extends.refl store

/-- No act undoes anything. -/
theorem afterActs_extends (acts later : List Act) :
    (afterActs acts).Extends (afterActs (acts ++ later)) := by
  rw [afterActs_eq, afterActs_eq, List.filterMap_append]
  exact after_extends _ _

/-! ## Derived futures are not cancelled -/

/-- No derived future is cancelled. -/
def Uncancelled (store : Store) : Prop :=
  ∀ id cell, store.cell? id = some cell → cell.origin.isSome = true →
    cell.status ≠ .cancelled

theorem Uncancelled.add {store : Store} (h : store.Uncancelled) {cell : Cell}
    (hnew : cell.origin.isSome = true → cell.status ≠ .cancelled) :
    (store.add cell).Uncancelled := by
  intro id old hcell
  rw [cell?_add] at hcell
  split at hcell
  · obtain rfl := Option.some.inj hcell
    exact hnew
  · exact h id old hcell

theorem Uncancelled.mark {store : Store} (h : store.Uncancelled) {id : Nat}
    {status : Status}
    (hright : (store.origin? id).isSome = true → status ≠ .cancelled) :
    (store.mark id status).Uncancelled := by
  intro other marked hcell horigin
  rw [cell?_mark] at hcell
  split at hcell
  · rename_i hid
    obtain ⟨cell, hc, rfl⟩ := Option.map_eq_some_iff.1 hcell
    refine hright ?_
    rw [origin?, hc]
    exact horigin
  · exact h other marked hcell horigin

/-- Running dependants finishes them, whatever their sources ended with. -/
theorem Uncancelled.settle {store : Store} (h : store.Uncancelled)
    (work : List Task) : (settle work store).1.Uncancelled := by
  induction work, store using settle_induction with
  | nil store => rw [settle_nil]; exact h
  | idle id rest store hdue ih => rw [settle_idle rest hdue]; exact ih h
  | due id rest store outcome events hdue hopen ih =>
      rw [settle_due rest hdue hopen]
      exact ih (h.mark fun _ => Status.noConfusion)
  | late id rest store outcome events hdue hclosed ih =>
      rw [settle_late rest hdue hclosed]; exact ih h

/-- Only a future that is derived from none is ever cancelled. -/
theorem Uncancelled.step {store : Store} (h : store.Uncancelled) (op : Op) :
    (store.step op).1.Uncancelled := by
  refine step_cases (motive := fun _ result => result.1.Uncancelled) ?_ ?_ ?_ ?_ ?_ op
  · intro _ status _
    exact h.add fun horigin => nomatch horigin
  · intro id outcome _
    have hmark : (store.mark id (.finished outcome)).Uncancelled :=
      h.mark fun _ => Status.noConfusion
    exact hmark.settle _
  · intro id _ hroot
    refine (h.mark fun horigin => ?_).settle _
    rw [hroot] at horigin
    exact nomatch horigin
  · intro source derivation _
    exact (h.add fun _ => Status.noConfusion).settle _
  · intro _ _
    exact h

/-- In no run is a derived future cancelled. -/
theorem uncancelled_afterActs (acts : List Act) :
    (afterActs acts).Uncancelled := by
  rw [afterActs_eq]
  induction acts.filterMap Act.op? using List.reverseRecOn with
  | nil => exact fun _ _ hcell => by simp [cell?, empty] at hcell
  | append_singleton ops op ih => rw [after_concat]; exact ih.step op

/-! ## Futures that have ended -/

theorem isOpen_of_cell? {store : Store} {id : Nat} {cell : Cell}
    (h : store.cell? id = some cell) :
    store.isOpen id = !cell.phase.ended := by
  rw [isOpen, h, Cell.ended_phase, Bool.not_not]
  rfl

/-- A derived future refuses to be cancelled, and nothing changes. -/
theorem cancel_derived {store : Store} (h : store.Uncancelled) {id : Nat}
    {cell : Cell} (hcell : store.cell? id = some cell)
    (horigin : cell.origin.isSome = true) :
    store.cancel id = (false, store, []) := by
  have hstatus := h id cell hcell horigin
  obtain ⟨origin, status⟩ := cell
  simp only [cancel, hcell]
  cases status with
  | waiting =>
      cases origin with
      | none => exact nomatch horigin
      | some source => rfl
  | finished outcome => cases origin <;> rfl
  | cancelled => exact absurd rfl hstatus

/-- A future that has ended is not set again. -/
theorem set_ended {store : Store} {id : Nat} (h : store.isOpen id = false)
    (outcome : Outcome) :
    store.set id outcome = .error (Failure.unworded .invalidState) := by
  rw [set, h]
  rfl

/-- The future that a caller is told of when it derives one is derived as it was
asked for. -/
theorem origin?_derive {store : Store} {source id : Nat}
    {derivation : Derivation} (hlt : source < store.next)
    (htold : (store.act (.perform (.derive source derivation))).1 = .future id) :
    (store.act (.perform (.derive source derivation))).2.1.origin? id =
      some (source, derivation) := by
  obtain rfl : store.next = id := Told.future.inj htold
  show (store.step (.derive source derivation)).1.origin? store.next = _
  simp only [step, if_pos hlt, derive, origin?_settle, origin?_add, if_true]

/-- **Futures end once.**  After every run of acts: a future that is done or
cancelled is the same after any later acts; a derived future is running or done,
never pending or cancelled, and an attempt to cancel it is answered with false
and changes nothing; an attempt to set a future that has ended is refused as an
invalid state, changes no future and calls no hook, while an open future takes
what it is set to and the caller is told of no failure, whatever its dependants,
which may have been set before, do meanwhile; a wait changes no future and calls
no hook, and for a future that has ended it is the same whenever it is made and
whatever its limit. -/
theorem ended_futures_stay (acts : List Act) :
    (∀ id cell, (afterActs acts).cell? id = some cell →
      cell.phase.ended = true →
        ∀ later, (afterActs (acts ++ later)).cell? id = some cell) ∧
      (∀ source derivation id, source < (afterActs acts).next →
        ((afterActs acts).act (.perform (.derive source derivation))).1 =
          .future id →
        ∀ later, ∃ cell,
          (afterActs (acts ++ .perform (.derive source derivation) ::
            later)).cell? id = some cell ∧
          cell.origin = some (source, derivation)) ∧
      (∀ id cell, (afterActs acts).cell? id = some cell →
        cell.origin.isSome = true →
        (cell.phase = .running ∨ cell.phase = .done) ∧
          (afterActs acts).act (.perform (.cancel id)) =
            (.flag false, afterActs acts, [])) ∧
      (∀ id cell outcome, (afterActs acts).cell? id = some cell →
        if cell.phase.ended then
          (afterActs acts).act (.perform (.set id outcome)) =
            (.refused (Failure.unworded .invalidState), afterActs acts, [])
        else
          ((afterActs acts).act (.perform (.set id outcome))).1 = .done ∧
            ((afterActs acts).act (.perform (.set id outcome))).2.1.outcome?
              id = some outcome) ∧
      (∀ id limit, ((afterActs acts).act (.wait id limit)).2 =
        (afterActs acts, [])) ∧
      ∀ id outcome, (afterActs acts).outcome? id = some outcome → ∀ later limit,
        ((afterActs (acts ++ later)).act (.wait id limit)).1 =
          .waited (observe outcome) := by
  refine ⟨?_, ?_, ?_, ?_, act_wait _, ?_⟩
  · intro id cell hcell hended later
    obtain ⟨cell', hcell', -, hsame⟩ :=
      afterActs_extends acts later id cell hcell
    rw [Cell.ended_phase, Bool.not_eq_true'] at hended
    rw [hcell', hsame hended]
  · intro source derivation id hlt htold later
    have horigin := origin?_derive hlt htold
    rw [← afterActs_concat] at horigin
    obtain ⟨cell, hcell, hmade⟩ := Option.bind_eq_some_iff.1 horigin
    obtain ⟨cell', hcell', hsame, -⟩ :=
      afterActs_extends (acts ++ [.perform (.derive source derivation)]) later
        id cell hcell
    rw [List.append_assoc] at hcell'
    exact ⟨cell', hcell', hsame.trans hmade⟩
  · intro id cell hcell horigin
    have hcancel := cancel_derived (uncancelled_afterActs acts) hcell horigin
    refine ⟨?_, ?_⟩
    · have hstatus := uncancelled_afterActs acts id cell hcell horigin
      unfold Cell.phase
      cases hs : cell.status with
      | waiting => exact Or.inl (if_pos horigin)
      | finished outcome => exact Or.inr rfl
      | cancelled => exact absurd hs hstatus
    · simp only [act, reply, step, hcancel]
  · intro id cell outcome hcell
    have hopen := isOpen_of_cell? hcell
    split
    · rename_i hended
      rw [hended] at hopen
      simp only [act, reply, step, set_ended hopen outcome]
    · rename_i hended
      rw [Bool.eq_false_iff.2 hended] at hopen
      have hset : (afterActs acts).set id outcome =
          .ok ((afterActs acts).finish id (.finished outcome)) :=
        if_pos hopen
      simp only [act, reply, step, hset]
      exact ⟨trivial, outcome?_finish_self (lt_next_of_isOpen hopen) rfl⟩
  · intro id outcome houtcome later limit
    have hlater := (afterActs_extends acts later).outcome? houtcome
    simp only [act, wait?, result?, hlater]
    rfl

/-- A derivation that converts every answer. -/
def relabel : Derivation :=
  .transform (some fun _ => .ok (.value (.text "converted"))) none

/-- What a derived future is set to before its source ends. -/
def direct : Outcome := .ok (.value (.text "direct"))

/-- A future is derived and then set before its source ends. -/
def setFirst : List Act :=
  [.perform .create, .perform (.derive 0 relabel), .perform (.set 1 direct)]

/-- The derived future keeps what it was set to when its source ends, when a
caller waits for it and when it is to be cancelled; the source ends without
complaint. -/
theorem ended_futures_stay_set_first :
    (afterActs setFirst).cell? 1 = some ⟨some (0, relabel), .finished direct⟩ ∧
      ((afterActs setFirst).act (.perform (.set 0 (.ok (.value .null))))).1 = .done ∧
      (afterActs (setFirst ++ [.perform (.set 0 (.ok (.value .null))),
        .wait 1 .null,
        .perform (.cancel 1)])).cell? 1 =
          some ⟨some (0, relabel), .finished direct⟩ := by
  have hderived :
      (settle [⟨stackRoom, 1⟩]
        ⟨[⟨none, .waiting⟩, ⟨some (0, relabel), .waiting⟩]⟩).1 =
      ⟨[⟨none, .waiting⟩, ⟨some (0, relabel), .waiting⟩]⟩ := by
    rw [settle_idle [] rfl, settle_nil]
  have hstore : afterActs setFirst =
      ⟨[⟨none, .waiting⟩, ⟨some (0, relabel), .finished direct⟩]⟩ := by
    show (step (settle [⟨stackRoom, 1⟩]
      ⟨[⟨none, .waiting⟩, ⟨some (0, relabel), .waiting⟩]⟩).1
        (.set 1 direct)).1 = _
    rw [hderived]
    show (settle []
      ⟨[⟨none, .waiting⟩, ⟨some (0, relabel), .finished direct⟩]⟩).1 = _
    rw [settle_nil]
  have hset : (afterActs setFirst).cell? 1 =
      some ⟨some (0, relabel), .finished direct⟩ := by
    rw [hstore]
    rfl
  have hsource : (afterActs setFirst).cell? 0 = some ⟨none, .waiting⟩ := by
    rw [hstore]; rfl
  obtain ⟨hstay, -, -, htold, -⟩ := ended_futures_stay setFirst
  exact ⟨hset, (htold 0 _ (.ok (.value .null)) hsource).1, hstay 1 _ hset rfl _⟩

end Store
end HostedModules
