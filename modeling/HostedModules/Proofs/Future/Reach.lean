/-
HostedModules.Proofs.Future.Reach — how far the room on the stack reaches.

In a straight chain, each future is derived from the one before.  When the
first one ends, the others run one within the other, and the last one for which
there is room is the last one that ends.

* `Store.Keeps` — a later store in which nothing more is derived from the
  futures of an earlier one
* `Store.Leads` — from this future on, the chain of these derivations, and
  nothing else, is derived
* `Leads.settle_reach` — of a chain, as many futures run as there is room for
* `Store.tower`, `Store.toppled` — a chain on an open future, which is then set
* `toppled_reach` — how much of the chain is left open
-/
import HostedModules.Proofs.Future.Room

namespace HostedModules

namespace Future.Derivation

/-- A future calls no conversion but its own. -/
theorem converted_mem_run {id called : Nat} {derivation : Derivation}
    {source : Outcome}
    (h : Event.converted called ∈ (derivation.run id source).2) :
    called = id := by
  cases derivation with
  | suppress message =>
      rcases source with failure | answer
      · simp only [run] at h
        split at h <;> simp at h
      · simp [run] at h
  | transform convert recover =>
      have hsecond : ∀ outcome,
          Event.converted called ∉ (recoverWith id recover outcome).2 := by
        intro outcome
        rcases outcome with failure | answer <;> rcases recover with _ | f <;>
          simp only [recoverWith]
        · simp
        · split <;> simp
        · simp
        · simp
      have hfirst : Event.converted called ∈
          (convertWith id convert source).2 :=
        (List.mem_append.1 h).resolve_right (hsecond _)
      rcases source with failure | answer <;> rcases convert with _ | f <;>
        simp_all [convertWith]

end Future.Derivation

namespace Store

open Future

/-! ## Chains -/

/-- The later store has all futures of the earlier one, and derives nothing more
from them. -/
def Keeps (earlier later : Store) : Prop :=
  earlier.next ≤ later.next ∧ ∀ id < earlier.next,
    later.dependants id = earlier.dependants id ∧
      later.origin? id = earlier.origin? id

theorem Keeps.refl (store : Store) : store.Keeps store :=
  ⟨Nat.le_refl _, fun _ _ => ⟨rfl, rfl⟩⟩

theorem Keeps.trans {a b c : Store} (hab : a.Keeps b) (hbc : b.Keeps c) :
    a.Keeps c := by
  refine ⟨Nat.le_trans hab.1 hbc.1, fun id hlt => ?_⟩
  obtain ⟨hd, ho⟩ := hab.2 id hlt
  obtain ⟨hd', ho'⟩ := hbc.2 id (Nat.lt_of_lt_of_le hlt hab.1)
  exact ⟨hd'.trans hd, ho'.trans ho⟩

theorem keeps_mark (store : Store) (id : Nat) (status : Status) :
    store.Keeps (store.mark id status) :=
  ⟨by simp, fun other _ =>
    ⟨dependants_mark store id other status, origin?_mark store id other status⟩⟩

theorem keeps_settle (work : List Task) (store : Store) :
    store.Keeps (settle work store).1 :=
  ⟨by simp, fun id _ =>
    ⟨dependants_settle work store id, origin?_settle work store id⟩⟩

theorem keeps_finish (store : Store) (id : Nat) (status : Status) :
    store.Keeps (store.finish id status).1 :=
  (keeps_mark store id status).trans (keeps_settle _ _)

/-- From this future the chain of these derivations is derived, with consecutive
numbers, and nothing else. -/
def Leads (store : Store) : Nat → List Derivation → Prop
  | id, [] => store.dependants id = []
  | id, derivation :: rest =>
    store.dependants id = [id + 1] ∧
      store.origin? (id + 1) = some (id, derivation) ∧ Leads store (id + 1) rest

theorem Leads.keep {earlier later : Store} (h : earlier.Keeps later) {id : Nat}
    (hlt : id < earlier.next) : ∀ {derivations : List Derivation},
      earlier.Leads id derivations → later.Leads id derivations
  | [], hleads => by
      show later.dependants id = []
      rw [(h.2 id hlt).1]
      exact hleads
  | derivation :: rest, ⟨hd, ho, hrest⟩ => by
      have hlt' : id + 1 < earlier.next := lt_next_of_origin? ho
      exact ⟨(h.2 id hlt).1.trans hd, (h.2 (id + 1) hlt').2.trans ho,
        hrest.keep h hlt'⟩

/-- The last future of a chain exists. -/
theorem Leads.lt_next {store : Store} :
    ∀ {id : Nat} {derivations : List Derivation}, id < store.next →
      store.Leads id derivations → id + derivations.length < store.next
  | _, [], hlt, _ => hlt
  | id, _ :: rest, _, ⟨_, ho, hrest⟩ => by
      have := hrest.lt_next (lt_next_of_origin? ho)
      rw [List.length_cons]
      omega

/-- A future that is derived from the last one of a chain continues the
chain. -/
theorem Leads.concat {store : Store} (hfirst : store.SourcesFirst)
    (derivation : Derivation) (status : Status) :
    ∀ {derivations : List Derivation} {id : Nat}, store.Leads id derivations →
      store.next = id + derivations.length + 1 →
      (store.add ⟨some (id + derivations.length, derivation), status⟩).Leads id
        (derivations ++ [derivation])
  | [], id, hleads, hlast => by
      have hnone : store.dependants id = [] := hleads
      have hadd := hfirst.addDerived (show id < store.next by omega) derivation
        status
      refine ⟨?_, ?_, hadd.dependants_newest ?_⟩
      · simp [dependants_add, Cell.dependsOn, hnone, hlast]
      · simp [origin?_add, hlast]
      · rw [next_add, hlast]
        rfl
  | first :: rest, id, ⟨hd, ho, hrest⟩, hlast => by
      rw [List.length_cons,
        show id + (rest.length + 1) = id + 1 + rest.length by
        omega] at hlast ⊢
      have hlt := lt_next_of_origin? ho
      refine ⟨?_, ?_, hrest.concat hfirst derivation status hlast⟩
      · have hnot : id + 1 + rest.length ≠ id := by omega
        simp [dependants_add, Cell.dependsOn, hd, hnot]
      · rw [origin?_add, if_neg (by omega), ho]

/-- A derivation of a chain is that of the future at its place. -/
theorem Leads.origin? {store : Store} :
    ∀ {derivations : List Derivation} {id : Nat}, store.Leads id derivations →
      ∀ {i : Nat} (hi : i < derivations.length),
        store.origin? (id + 1 + i) = some (id + i, derivations[i])
  | [], _, _, i, hi => absurd hi (Nat.not_lt_zero i)
  | _ :: _, id, ⟨_, ho, hrest⟩, i, hi => by
      cases i with
      | zero => exact ho
      | succ i =>
          have := hrest.origin? (Nat.lt_of_succ_lt_succ hi)
          rwa [show id + 1 + 1 + i = id + 1 + (i + 1) by omega,
            show id + 1 + i = id + (i + 1) by omega] at this

@[simp] theorem upcoming_zero (store : Store) (id : Nat) :
    store.upcoming ⟨0, id⟩ [] = [] := rfl

@[simp] theorem upcoming_succ (store : Store) (room id : Nat) :
    store.upcoming ⟨room + 1, id⟩ [] = store.tasks room id := List.append_nil _

@[simp] theorem upcoming_mark (store : Store) (id : Nat) (status : Status)
    (task : Task) (rest : List Task) :
    (store.mark id status).upcoming task rest = store.upcoming task rest := by
  simp only [upcoming, tasks, dependants_mark]

section Run

variable {store : Store} {id : Nat} {derivation : Derivation}
  {rest : List Derivation} {outcome : Outcome}

/-- The store in which the first future of a chain has run. -/
def afterFirst (store : Store) (id : Nat) (derivation : Derivation)
    (outcome : Outcome) : Store :=
  store.mark (id + 1) (.finished (derivation.run (id + 1) outcome).1)

/-- When a future has ended, the chain that leads from it runs its first future,
and then what is left of the chain, if there is room for it. -/
theorem Leads.settle_cons (h : store.Leads id (derivation :: rest))
    (hs : store.outcome? id = some outcome)
    (hopen : store.isOpen (id + 1) = true) (room : Nat) :
    settle (store.tasks room id) store =
      let later := store.afterFirst id derivation outcome
      let left := settle (later.upcoming ⟨room, id + 1⟩ []) later
      (left.1, (derivation.run (id + 1) outcome).2 ++ left.2) := by
  have htasks : store.tasks room id = [⟨room, id + 1⟩] := by
    rw [tasks, h.1]
    rfl
  unfold Store.afterFirst
  obtain ⟨⟨ended, events⟩, hrun⟩ :
      ∃ result, derivation.run (id + 1) outcome = result := ⟨_, rfl⟩
  have hdue : store.due? (id + 1) = some (ended, events) :=
    due?_eq_some_iff.2 ⟨id, derivation, outcome, h.2.1, hs, hrun⟩
  rw [htasks, settle_due [] hdue hopen, hrun]
  simp only [upcoming_mark]

/-- What is left of the chain leads from its first future, which has ended. -/
theorem Leads.afterFirst (h : store.Leads id (derivation :: rest))
    (outcome : Outcome) :
    (store.afterFirst id derivation outcome).Leads (id + 1) rest ∧
      (store.afterFirst id derivation outcome).outcome? (id + 1) =
        some (derivation.run (id + 1) outcome).1 := by
  have hlt : id + 1 < store.next := lt_next_of_origin? h.2.1
  exact ⟨h.2.2.keep (keeps_mark store (id + 1) _) hlt, outcome?_mark_self _ hlt⟩

/-- The other futures of the chain are still open then. -/
theorem isOpen_afterFirst (derivation : Derivation) (outcome : Outcome)
    {count : Nat} (hopen : ∀ i < count + 1, store.isOpen (id + 1 + i) = true) :
    ∀ i < count,
      (store.afterFirst id derivation outcome).isOpen (id + 1 + 1 + i) = true := by
  intro i hi
  rw [Store.afterFirst, isOpen_mark_of_ne _ (by omega)]
  have := hopen (i + 1) (Nat.succ_lt_succ hi)
  rwa [show id + 1 + (i + 1) = id + 1 + 1 + i by omega] at this

end Run

/-- When a future has ended, the chain that leads from it ends as far as there
is room, and no further. -/
theorem Leads.settle_reach :
    ∀ {derivations : List Derivation} {id : Nat} {store : Store} (room : Nat),
      store.Leads id derivations → (store.outcome? id).isSome →
      (∀ i < derivations.length, store.isOpen (id + 1 + i) = true) →
      ∀ i < derivations.length,
        (settle (store.tasks room id) store).1.isOpen (id + 1 + i) =
          decide (room < i)
  | [], _, _, _, _, _, _ => fun i hi => absurd hi (Nat.not_lt_zero i)
  | derivation :: rest, id, store, room, hleads, hs, hopen => by
      obtain ⟨outcome, hs⟩ := Option.isSome_iff_exists.1 hs
      obtain ⟨hrest, hended⟩ := hleads.afterFirst outcome
      have hstill := isOpen_afterFirst derivation outcome hopen
      rw [hleads.settle_cons hs (hopen 0 (Nat.succ_pos _))]
      intro i hi
      cases i with
      | zero =>
          -- The first future has ended, whatever happens to the others.
          refine Bool.eq_false_iff.2 fun hisOpen => ?_
          have hkept := (isOpen_iff_outcome?.1 hisOpen).2
          rw [Nat.add_zero, (settle_extends _ _).outcome? hended] at hkept
          exact absurd hkept (by simp)
      | succ i =>
          have hi := Nat.lt_of_succ_lt_succ hi
          rw [show id + 1 + (i + 1) = id + 1 + 1 + i by omega]
          cases room with
          | zero => simpa using hstill i hi
          | succ room =>
              simpa using
                hrest.settle_reach room (by rw [hended]; rfl) hstill i hi

/-- No future beyond calls its conversion. -/
theorem Leads.settle_converted {called : Nat} :
    ∀ {derivations : List Derivation} {id room : Nat} {store : Store},
      store.Leads id derivations → (store.outcome? id).isSome →
      (∀ i < derivations.length, store.isOpen (id + 1 + i) = true) →
      Event.converted called ∈ (settle (store.tasks room id) store).2 →
      called ≤ id + 1 + room
  | [], id, room, store, hleads, _, _ => by
      have hnone : store.dependants id = [] := hleads
      simp [tasks, hnone]
  | derivation :: rest, id, room, store, hleads, hs, hopen => by
      obtain ⟨outcome, hs⟩ := Option.isSome_iff_exists.1 hs
      obtain ⟨hrest, hended⟩ := hleads.afterFirst outcome
      have hstill := isOpen_afterFirst derivation outcome hopen
      rw [hleads.settle_cons hs (hopen 0 (Nat.succ_pos _))]
      intro hmem
      rcases List.mem_append.1 hmem with hmem | hmem
      · rw [Derivation.converted_mem_run hmem]
        omega
      · cases room with
        | zero => simp at hmem
        | succ room =>
            rw [upcoming_succ] at hmem
            have := hrest.settle_converted (by rw [hended]; rfl) hstill hmem
            omega

/-! ## Towers -/

/-- A run that makes an open future, and then derives each future from the one
before. -/
def tower (levels : Nat) (derivation : Derivation) : List Op :=
  .create :: (List.range levels).map fun source => .derive source derivation

theorem tower_succ (levels : Nat) (derivation : Derivation) :
    tower (levels + 1) derivation =
      tower levels derivation ++ [.derive levels derivation] := by
  simp [tower, List.range_succ]

section Tower

variable (levels : Nat) (derivation : Derivation)

/-- The futures of a tower are all open, and each is derived from the one
before. -/
structure Stands (store : Store) : Prop where
  next : store.next = levels + 1
  waiting : ∀ id, store.outcome? id = none
  leads : store.Leads 0 (List.replicate levels derivation)

theorem Stands.isOpen {levels : Nat} {derivation : Derivation} {store : Store}
    (h : Stands levels derivation store) {i : Nat} (hi : i ≤ levels) :
    store.isOpen i = true :=
  isOpen_iff_outcome?.2 ⟨by rw [h.next]; omega, h.waiting i⟩

theorem stands_tower :
    Stands levels derivation (after (tower levels derivation)) ∧
      trace (tower levels derivation) = [] := by
  induction levels with
  | zero =>
      refine ⟨⟨rfl, fun id => ?_, ?_⟩, rfl⟩
      · cases id <;> rfl
      · exact (sourcesFirst_after [.create]).dependants_newest rfl
  | succ levels ih =>
      obtain ⟨hstands, htrace⟩ := ih
      have hlt : levels < (after (tower levels derivation)).next := by
        rw [hstands.next]
        exact Nat.lt_succ_self levels
      have hstep : (after (tower levels derivation)).step
          (.derive levels derivation) =
            ((after (tower levels derivation)).add
              ⟨some (levels, derivation), .waiting⟩, []) := by
        simp only [step, if_pos hlt, derive]
        exact settle_add_waiting hlt (hstands.waiting levels) stackRoom
      rw [tower_succ, after_concat, trace_concat, hstep, htrace]
      refine ⟨⟨?_, fun id => ?_, ?_⟩, rfl⟩
      · rw [next_add, hstands.next]
      · by_cases hid : id = (after (tower levels derivation)).next
        · rw [hid, outcome?_add_self]
          rfl
        · rw [outcome?_add_of_ne _ hid]
          exact hstands.waiting id
      · have hleads := hstands.leads.concat (sourcesFirst_after _) derivation
          .waiting (by rw [hstands.next, List.length_replicate, Nat.zero_add])
        rwa [List.length_replicate, Nat.zero_add, ← List.replicate_succ'] at hleads

/-- A tower whose first future is set. -/
def toppled (outcome : Outcome) : List Op :=
  tower levels derivation ++ [.set 0 outcome]

theorem setBy_toppled (outcome : Outcome) :
    SetBy (toppled levels derivation outcome) 0 outcome :=
  ⟨tower levels derivation, [], rfl,
    (stands_tower levels derivation).1.isOpen (Nat.zero_le _)⟩

/-- No other future of the tower is set. -/
theorem SetBy.eq_zero {levels id : Nat} {derivation : Derivation}
    {outcome given : Outcome}
    (h : SetBy (toppled levels derivation outcome) id given) : id = 0 := by
  have hmem := h.mem
  simp [toppled, tower] at hmem
  exact hmem.1

/-- **How far a tower falls.**  When the first future of a tower is set, the
ones above it end up to the last for which there is room on the stack, and the
others stay open and call no conversion, though each of them is derived from the
one before. -/
theorem toppled_reach (outcome : Outcome) :
    (∀ i < levels,
      (after (toppled levels derivation outcome)).origin? (i + 1) =
          some (i, derivation) ∧
        (after (toppled levels derivation outcome)).isOpen (i + 1) =
          decide (stackRoom < i)) ∧
      ∀ called, Event.converted called ∈
        trace (toppled levels derivation outcome) →
        called ≤ stackRoom + 1 := by
  obtain ⟨hstands, htrace⟩ := stands_tower levels derivation
  have hopen := hstands.isOpen (Nat.zero_le levels)
  let base := (after (tower levels derivation)).mark 0 (.finished outcome)
  have hroot : base.outcome? 0 = some outcome :=
    outcome?_mark_self _ (lt_next_of_isOpen hopen)
  have hleads : base.Leads 0 (List.replicate levels derivation) :=
    hstands.leads.keep (keeps_mark _ 0 _) (by rw [hstands.next]; omega)
  have hstill : ∀ i < (List.replicate levels derivation).length,
      base.isOpen (0 + 1 + i) = true := by
    intro i hi
    rw [List.length_replicate] at hi
    rw [isOpen_mark_of_ne _ (by omega)]
    exact hstands.isOpen (by omega)
  have hstep : (after (tower levels derivation)).step (.set 0 outcome) =
      settle (base.tasks stackRoom 0) base := by
    have htasks : base.tasks stackRoom 0 =
        (after (tower levels derivation)).tasks stackRoom 0 := by
      rw [tasks, dependants_mark]
      rfl
    rw [htasks]
    simp only [step, set, hopen, if_true]
    rfl
  rw [toppled, after_concat, trace_concat, htrace, hstep, List.nil_append]
  refine ⟨fun i hi => ?_, fun called hmem => ?_⟩
  · have hi' : i < (List.replicate levels derivation).length := by
      rwa [List.length_replicate]
    have horigin := hleads.origin? hi'
    have hreach := hleads.settle_reach stackRoom (by rw [hroot]; rfl) hstill i
      hi'
    rw [origin?_settle]
    rw [Nat.zero_add, Nat.add_comm] at horigin hreach
    exact ⟨by simpa using horigin, hreach⟩
  · have := hleads.settle_converted (by rw [hroot]; rfl) hstill hmem
    omega

end Tower

end Store
end HostedModules
