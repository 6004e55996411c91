/-
HostedModules.Proofs.Future.Messages — the messages that futures log.

A future that suppresses a refusal logs its message when it is run.  While there
is room for all that runs, it is run once, so the messages of a run can be read
off the store that the run leaves behind: each future has logged what its
derivation logs on the outcome of its source.

* `Future.messages` — the messages among some events
* `Derivation.messages` — what a derivation logs on an outcome
* `Store.logged`, `Store.allLogged` — what the futures of a store have logged
* `trace_messages` — in every run that fits, nothing is logged twice and nothing
  is left out
-/
import Mathlib.Data.List.Perm.Basic
import HostedModules.Proofs.Future.Reference

namespace HostedModules

namespace Future

/-- The messages among some events, in their order. -/
def messages (events : List Event) : List String :=
  events.filterMap fun
    | .logged message => some message
    | _ => none

@[simp] theorem messages_nil : messages [] = [] := rfl

@[simp] theorem messages_append (a b : List Event) :
    messages (a ++ b) = messages a ++ messages b :=
  List.filterMap_append

/-- What a derivation logs on the outcome of the source. -/
def Derivation.messages : Derivation → Outcome → List String
  | .suppress message, .error failure =>
      if failure.kind = .alreadyInDesiredState then [message] else []
  | _, _ => []

theorem Derivation.messages_run (id : Nat) (derivation : Derivation)
    (source : Outcome) :
    Future.messages (derivation.run id source).2 = derivation.messages source := by
  cases derivation with
  | transform convert recover =>
      have hfirst : Future.messages (convertWith id convert source).2 = [] := by
        rcases source with failure | answer <;> rcases convert with _ | f <;>
          rfl
      have hsecond : ∀ outcome,
          Future.messages (recoverWith id recover outcome).2 = [] := by
        intro outcome
        rcases outcome with failure | answer <;> rcases recover with _ | f <;>
          simp only [recoverWith]
        · rfl
        · split <;> rfl
        · rfl
        · rfl
      show Future.messages ((convertWith id convert source).2 ++
        (recoverWith id recover (convertWith id convert source).1).2) = []
      rw [messages_append, hfirst, hsecond]
      rfl
  | suppress message =>
      rcases source with failure | answer
      · simp only [run, Failure.Kind.isA_alreadyInDesiredState,
          Derivation.messages]
        split <;> rfl
      · rfl

end Future

namespace Store

open Future

/-- What a future has logged: nothing before its source ends, and then what its
derivation logs on the outcome. -/
def logged (store : Store) (id : Nat) : List String :=
  match store.due? id with
  | some (_, events) => messages events
  | none => []

/-- What all futures have logged, in the order of their making. -/
def allLogged (store : Store) : List String :=
  (List.range store.next).flatMap store.logged

theorem logged_eq {store : Store} {id source : Nat} {derivation : Derivation}
    {outcome : Outcome} (ho : store.origin? id = some (source, derivation))
    (hs : store.outcome? source = some outcome) :
    store.logged id = derivation.messages outcome := by
  unfold logged
  rw [due?_eq, ho]
  simp only [Option.bind_some, hs, Option.map_some]
  exact derivation.messages_run id outcome

theorem logged_of_due {store : Store} {id : Nat} {outcome : Outcome}
    {events : List Event} (h : store.due? id = some (outcome, events)) :
    store.logged id = messages events := by
  unfold logged; rw [h]

theorem logged_of_not_due {store : Store} {id : Nat}
    (h : store.due? id = none) : store.logged id = [] := by
  unfold logged; rw [h]

/-- What a future has logged depends on its source alone. -/
theorem logged_congr {a b : Store} {id : Nat} (ho : a.origin? id = b.origin? id)
    (hs : ∀ source derivation, b.origin? id = some (source, derivation) →
      a.outcome? source = b.outcome? source) : a.logged id = b.logged id := by
  have hdue : a.due? id = b.due? id := by
    rw [due?_eq, due?_eq, ho]
    cases hb : b.origin? id with
    | none => rfl
    | some origin => simp only [Option.bind_some, hs origin.1 origin.2 hb]
  unfold logged; rw [hdue]

/-! ## Counting -/

/-- How often these futures have logged the message. -/
def tally (message : String) (store : Store) (ids : List Nat) : Nat :=
  (ids.flatMap store.logged).count message

theorem tally_nil (message : String) (store : Store) :
    tally message store [] = 0 := rfl

theorem tally_cons (message : String) (store : Store) (id : Nat)
    (rest : List Nat) :
    tally message store (id :: rest) = (store.logged id).count message +
      tally message store rest := by
  rw [tally, tally, List.flatMap_cons, List.count_append]

theorem tally_append (message : String) (store : Store) (a b : List Nat) :
    tally message store (a ++ b) = tally message store a +
      tally message store b := by
  rw [tally, tally, tally, List.flatMap_append, List.count_append]

theorem count_allLogged (message : String) (store : Store) :
    store.allLogged.count message =
      tally message store (List.range store.next) := rfl

/-- Two stores over the same futures, one of which has logged more for those
that a test selects. -/
theorem tally_filter {message : String} {a b : Store} {ids : List Nat}
    {p : Nat → Bool} (hin : ∀ id ∈ ids, p id = true → b.logged id = [])
    (hout : ∀ id ∈ ids, p id = false → a.logged id = b.logged id) :
    tally message a ids = tally message b ids +
      tally message a (ids.filter p) := by
  induction ids with
  | nil => rfl
  | cons id rest ih =>
      have hrest := ih (fun other h => hin other (List.mem_cons_of_mem _ h))
        (fun other h => hout other (List.mem_cons_of_mem _ h))
      rw [tally_cons, tally_cons, List.filter_cons]
      cases hp : p id with
      | true =>
          rw [hin id List.mem_cons_self hp, if_pos rfl, tally_cons,
            List.count_nil]
          omega
      | false =>
          rw [hout id List.mem_cons_self hp, if_neg Bool.false_ne_true]
          omega

theorem tally_congr {message : String} {a b : Store} {ids : List Nat}
    (h : ∀ id ∈ ids, a.logged id = b.logged id) :
    tally message a ids = tally message b ids := by
  induction ids with
  | nil => rfl
  | cons id rest ih =>
      rw [tally_cons, tally_cons, h id List.mem_cons_self,
        ih fun other hmem => h other (List.mem_cons_of_mem _ hmem)]

/-- Ending a future adds what its dependants log. -/
theorem tally_mark (message : String) {store : Store} {id : Nat}
    (status : Status) (hopen : store.isOpen id = true) :
    tally message (store.mark id status) (List.range store.next) =
      tally message store (List.range store.next) +
        tally message (store.mark id status) (store.dependants id) := by
  obtain ⟨hlt, hnone⟩ := isOpen_iff_outcome?.1 hopen
  have hmem : ∀ other, other < store.next →
      (((store.cell? other).map (Cell.dependsOn id)).getD false = true ↔
        other ∈ store.dependants id) := by
    intro other ho
    simp only [dependants, List.mem_filter, List.mem_range]
    exact ⟨fun h => ⟨ho, h⟩, fun h => h.2⟩
  refine tally_filter ?_ ?_
  · intro other ho hp
    obtain ⟨derivation, horigin⟩ :=
      mem_dependants.1 ((hmem other (List.mem_range.1 ho)).1 hp)
    exact logged_of_not_due (by rw [due?_eq, horigin]; simp [hnone])
  · intro other ho hp
    have hnot : other ∉ store.dependants id := fun h => by
      rw [(hmem other (List.mem_range.1 ho)).2 h] at hp
      exact absurd hp (by simp)
    refine logged_congr (origin?_mark store id other status)
      fun source derivation horigin => ?_
    refine outcome?_mark_of_ne status ?_
    rintro rfl
    exact hnot (mem_dependants.2 ⟨derivation, horigin⟩)

/-- Running futures whose sources have ended logs what each of them logs, and
what those log that end by it. -/
theorem count_messages_settle (message : String) (work : List Task)
    (store : Store) (hfits : store.Fits work)
    (hready : ∀ id ∈ work.map Task.id, ∀ source derivation,
      store.origin? id = some (source, derivation) →
        (store.outcome? source).isSome) :
    (messages (settle work store).2).count message +
        tally message store (List.range store.next) =
      tally message (settle work store).1 (List.range store.next) +
        tally message store (work.map Task.id) := by
  induction work, store using settle_induction with
  | nil store => simp [tally_nil]
  | idle task rest store hdue ih =>
      rw [settle_idle rest hdue, List.map_cons, tally_cons,
        logged_of_not_due hdue]
      have := ih hfits.tail fun other h =>
        hready other (List.mem_cons_of_mem _ h)
      simp only [List.count_nil]
      omega
  | due task rest store outcome events hdue hopen ih =>
      rw [hfits.upcoming] at ih
      simp only [settle_due rest hdue hopen, hfits.upcoming, messages_append,
        List.count_append, List.map_cons, tally_cons, logged_of_due hdue]
      obtain ⟨hlt, hnone⟩ := isOpen_iff_outcome?.1 hopen
      have hother : ∀ other ∈ rest.map Task.id, ∀ source derivation,
          store.origin? other = some (source, derivation) → source ≠ task.id := by
        rintro other hmem source derivation horigin rfl
        have := hready other (List.mem_cons_of_mem _ hmem) _ derivation horigin
        rw [hnone] at this
        exact absurd this (by simp)
      have hrest : tally message (store.mark task.id (.finished outcome))
          (rest.map Task.id) = tally message store (rest.map Task.id) :=
        tally_congr fun other hmem =>
          logged_congr (origin?_mark ..) fun source derivation horigin =>
            outcome?_mark_of_ne _ (hother other hmem source derivation horigin)
      have hlater := ih (hfits.mark hopen rfl) fun other hmem source derivation
          horigin => by
        rw [origin?_mark] at horigin
        rw [List.map_append, map_id_tasks] at hmem
        rcases List.mem_append.1 hmem with hmem | hmem
        · rw [eq_of_mem_dependants hmem horigin, outcome?_mark_self _ hlt]
          rfl
        · rw [outcome?_mark_of_ne _
            (hother other hmem source derivation horigin)]
          exact hready other (List.mem_cons_of_mem _ hmem) source derivation horigin
      rw [next_mark, List.map_append, map_id_tasks, tally_append,
        tally_mark message _ hopen, hrest] at hlater
      omega
  | late task rest store outcome events hdue hclosed ih =>
      rw [hfits.tail.unwind] at ih
      simp only [settle_late rest hdue hclosed, hfits.tail.unwind,
        messages_append, List.count_append, List.map_cons, tally_cons,
        logged_of_due hdue]
      have := ih hfits.tail fun other h =>
        hready other (List.mem_cons_of_mem _ h)
      omega

theorem count_messages_finish (message : String) {store : Store} {id : Nat}
    {status : Status} (hopen : store.isOpen id = true)
    (hshallow : store.Shallow levelLimit id) (hstatus : status.open = false) :
    (messages (store.finish id status).2).count message +
        store.allLogged.count message =
      (store.finish id status).1.allLogged.count message := by
  have hlt := lt_next_of_isOpen hopen
  have hsettle := count_messages_settle message (store.tasks stackRoom id)
      (store.mark id status) (hshallow.fits hopen hstatus) fun other hmem
      source derivation horigin => by
    rw [origin?_mark] at horigin
    rw [map_id_tasks] at hmem
    rw [eq_of_mem_dependants hmem horigin, outcome?_mark_self _ hlt]
    exact Status.closed_iff.1 hstatus
  rw [map_id_tasks, next_mark, tally_mark message _ hopen] at hsettle
  rw [count_allLogged, count_allLogged, next_finish]
  unfold finish
  omega

/-- A new future adds what it has logged itself. -/
theorem count_allLogged_add (message : String) {store : Store} (cell : Cell)
    (hfirst : store.SourcesFirst) :
    (store.add cell).allLogged.count message =
      store.allLogged.count message +
        ((store.add cell).logged store.next).count message := by
  rw [count_allLogged, count_allLogged, next_add, List.range_succ, tally_append,
    tally_cons, tally_nil, Nat.add_zero]
  congr 1
  refine tally_congr fun id hid => ?_
  rw [logged, logged,
    due?_add_of_ne hfirst cell (Nat.ne_of_lt (List.mem_range.1 hid))]

/-- A new future that is derived from none has logged nothing. -/
theorem count_allLogged_addRoot (message : String) {store : Store}
    (status : Status) (hfirst : store.SourcesFirst) :
    (store.add ⟨none, status⟩).allLogged.count message =
      store.allLogged.count message := by
  rw [count_allLogged_add message _ hfirst,
    logged_of_not_due (due?_add_root store status), List.count_nil,
    Nat.add_zero]

theorem count_messages_derive (message : String) {store : Store} {source : Nat}
    (derivation : Derivation) (hfirst : store.SourcesFirst)
    (hlt : source < store.next) :
    (messages (store.derive source derivation).2.2).count message +
      store.allLogged.count message =
      (store.derive source derivation).2.1.allLogged.count message := by
  have hadd := count_allLogged_add message ⟨some (source, derivation),
    .waiting⟩ hfirst
  have horigin :
      (store.add ⟨some (source, derivation), .waiting⟩).origin? store.next =
      some (source, derivation) := by rw [origin?_add, if_pos rfl]
  have hsource :
      (store.add ⟨some (source, derivation), .waiting⟩).outcome? source =
      store.outcome? source :=
    outcome?_add_of_ne _ (by omega)
  cases hs : store.outcome? source with
  | none =>
      have hdue := due?_add_self derivation hlt
      rw [hs, Option.map_none] at hdue
      rw [logged_of_not_due hdue] at hadd
      simp only [derive, settle_add_waiting hlt hs, messages_nil,
        List.count_nil] at hadd ⊢
      omega
  | some outcome =>
      have hfits : (store.add ⟨some (source, derivation), .waiting⟩).Fits
          [⟨stackRoom, store.next⟩] :=
        fits_newest (hfirst.addDerived hlt derivation .waiting)
      have hsettle := count_messages_settle message _ _ hfits fun other hmem
          source' derivation' horigin' => by
        obtain rfl := List.mem_singleton.1 hmem
        obtain ⟨rfl, -⟩ : source' = source ∧ derivation' = derivation := by
          simpa [horigin] using horigin'.symm
        rw [hsource, hs]
        rfl
      rw [List.map_singleton, tally_cons, tally_nil, Nat.add_zero,
        ← count_allLogged] at hsettle
      rw [count_allLogged message (store.derive source derivation).2.1]
      simp only [derive, next_settle] at hsettle ⊢
      omega

/-- An operation logs what its futures log by it. -/
theorem count_messages_step (message : String) {store : Store}
    (hfirst : store.SourcesFirst) (op : Op) (hroom : store.RoomFor op) :
    (messages (store.step op).2).count message + store.allLogged.count message =
      (store.step op).1.allLogged.count message := by
  refine step_cases (motive := fun op result => store.RoomFor op →
    (messages result.2).count message + store.allLogged.count message =
      result.1.allLogged.count message) ?_ ?_ ?_ ?_ ?_ op hroom
  · intro op status _ _
    rw [count_allLogged_addRoot message status hfirst]
    simp
  · intro id outcome hopen hshallow
    exact count_messages_finish message hopen hshallow rfl
  · intro id hopen hroot hshallow
    exact count_messages_finish message hopen (hshallow hroot) rfl
  · intro source derivation hlt _
    exact count_messages_derive message derivation hfirst hlt
  · intro _ _ _
    simp

/-- **Every message is logged once.**  The messages of a run that fits are those
that its futures log on the outcomes of their sources, in some order: none is
missing and none is repeated. -/
theorem trace_messages {ops : List Op} (hroom : Roomy ops) :
    (messages (trace ops)).Perm (after ops).allLogged := by
  rw [List.perm_iff_count]
  intro message
  induction ops using List.reverseRecOn with
  | nil => rfl
  | append_singleton ops op ih =>
      obtain ⟨hroom, hop⟩ := roomy_concat.1 hroom
      rw [trace_concat, after_concat, messages_append, List.count_append,
        ih hroom, Nat.add_comm]
      exact count_messages_step message (sourcesFirst_after ops) op hop

end Store
end HostedModules
