/-
HostedModules.Proofs.Future.Chain — futures derived one from another.

A call adds a future that a backend answers, and to it a chain of futures, each
derived from the newest one; the last of them is the one that the caller gets.
The chain passes the outcome of its first future on, through all of its
derivations, at the moment when that future ends.

* `Store.chain` — make the chain
* `conclude`, `report` — what a chain ends with, and the messages that it logs
* `Leads.outcome?` — the outcome at the end of a chain
* `Leads.finish_messages` — what is logged when the first future of a chain ends
-/
import HostedModules.Proofs.Future.Messages

namespace HostedModules

namespace Future

/-- What a chain of derivations makes of an outcome. -/
def conclude : List Derivation → Outcome → Outcome
  | [], outcome => outcome
  | derivation :: rest, outcome => conclude rest (derivation.reference outcome)

/-- What a chain of derivations logs on an outcome. -/
def report : List Derivation → Outcome → List String
  | [], _ => []
  | derivation :: rest, outcome =>
      derivation.messages outcome ++ report rest (derivation.reference outcome)

end Future

namespace Store

open Future

/-- The store with a chain of futures, the first one derived from the newest
future. -/
def chain (store : Store) : List Derivation → Store × List Event
  | [] => (store, [])
  | derivation :: rest =>
    ((chain (store.derive (store.next - 1) derivation).2.1 rest).1,
      (store.derive (store.next - 1) derivation).2.2 ++
        (chain (store.derive (store.next - 1) derivation).2.1 rest).2)

/-! ## Making a chain -/

theorem keeps_add {store : Store} (cell : Cell)
    (hnew : ∀ source derivation, cell.origin = some (source, derivation) →
      store.next ≤ source) :
    store.Keeps (store.add cell) := by
  refine ⟨by simp, fun id hlt => ⟨?_, by rw [origin?_add, if_neg (by omega)]⟩⟩
  have hnot : cell.dependsOn id = false := by
    obtain ⟨origin, status⟩ := cell
    rcases origin with _ | ⟨source, derivation⟩
    · rfl
    · have := hnew source derivation rfl
      simp only [Cell.dependsOn]
      exact decide_eq_false (by omega)
  rw [dependants_add, hnot]
  simp

@[simp] theorem next_chain (store : Store) (derivations : List Derivation) :
    (store.chain derivations).1.next = store.next + derivations.length := by
  induction derivations generalizing store with
  | nil => rfl
  | cons derivation rest ih =>
      show (chain (store.derive (store.next - 1) derivation).2.1 rest).1.next = _
      rw [ih, derive, next_settle, next_add, List.length_cons]
      omega

/-- A chain is continued from its last future. -/
theorem chain_concat (store : Store) (derivations : List Derivation)
    (derivation : Derivation) :
    store.chain (derivations ++ [derivation]) =
      (((store.chain derivations).1.derive
        ((store.chain derivations).1.next - 1) derivation).2.1,
        (store.chain derivations).2 ++
          ((store.chain derivations).1.derive
            ((store.chain derivations).1.next - 1) derivation).2.2) := by
  induction derivations generalizing store with
  | nil => simp [chain]
  | cons first rest ih => simp [chain, ih]

theorem chain_extends (store : Store) (derivations : List Derivation) :
    store.Extends (store.chain derivations).1 := by
  induction derivations generalizing store with
  | nil => exact Extends.refl store
  | cons derivation rest ih =>
      exact ((extends_add store _).trans (settle_extends _ _)).trans (ih _)

/-- Making a chain ends derived futures only. -/
theorem chain_root {store : Store} {id : Nat} (derivations : List Derivation)
    (hlt : id < store.next) (hroot : store.origin? id = none) :
    (store.chain derivations).1.cell? id = store.cell? id := by
  induction derivations generalizing store with
  | nil => rfl
  | cons derivation rest ih =>
      have hadd :
          (store.add ⟨some (store.next - 1, derivation), .waiting⟩).origin? id =
          none := by
        rw [origin?_add, if_neg (by omega), hroot]
      show (chain (store.derive (store.next - 1) derivation).2.1 rest).1.cell? id = _
      rw [ih (by simp [derive]; omega) (by simpa [derive] using hadd), derive,
        settle_root _ hadd, cell?_add,
        if_neg (by omega)]

/-- Nothing is derived from a future that is not the newest when the chain is
made. -/
theorem dependants_chain {store : Store} {id : Nat}
    (derivations : List Derivation) (hlt : id + 1 < store.next) :
    (store.chain derivations).1.dependants id = store.dependants id := by
  induction derivations generalizing store with
  | nil => rfl
  | cons derivation rest ih =>
      have hnot :
          (Cell.mk (some (store.next - 1, derivation)) .waiting).dependsOn id = false :=
        decide_eq_false (by omega)
      show (chain (store.derive (store.next - 1) derivation).2.1
        rest).1.dependants id = _
      rw [ih (by simp [derive]; omega), derive, dependants_settle,
        dependants_add, hnot]
      simp

/-- A chain that starts from a new future keeps all earlier ones. -/
theorem chain_keeps {earlier store : Store} (derivations : List Derivation)
    (h : earlier.Keeps store) (hnew : earlier.next < store.next) :
    earlier.Keeps (store.chain derivations).1 := by
  refine ⟨by rw [next_chain]; have := h.1; omega, fun id hlt => ?_⟩
  obtain ⟨hd, ho⟩ := h.2 id hlt
  rw [dependants_chain derivations (by omega),
    (chain_extends store derivations).origin? (by omega)]
  exact ⟨hd, ho⟩

theorem Settling.chain {exempt : Nat → Prop} {store : Store}
    (h : Settling exempt [] store) (hpos : 0 < store.next)
    (derivations : List Derivation) :
    Settling exempt [] (store.chain derivations).1 := by
  induction derivations generalizing store with
  | nil => exact h
  | cons derivation rest ih =>
      exact ih (h.derive (by omega) derivation) (by simp [Store.derive])

theorem count_messages_chain (message : String) {store : Store}
    (h : Settling (fun _ => False) [] store) (hpos : 0 < store.next)
    (derivations : List Derivation) :
    (messages (store.chain derivations).2).count message +
      store.allLogged.count message =
      (store.chain derivations).1.allLogged.count message := by
  induction derivations generalizing store with
  | nil => simp [Store.chain]
  | cons derivation rest ih =>
      have hlast : store.next - 1 < store.next := by omega
      have hone := count_messages_derive message derivation h.older hlast
      have hrest := ih (h.derive hlast derivation) (by simp [derive])
      simp only [Store.chain, messages_append, List.count_append]
      omega

section Chain

variable {store : Store} (hfirst : store.SourcesFirst) (hpos : 0 < store.next)

include hfirst hpos

theorem SourcesFirst.chain (derivations : List Derivation) :
    (store.chain derivations).1.SourcesFirst := by
  induction derivations generalizing store with
  | nil => exact hfirst
  | cons derivation rest ih =>
      have hlast : store.next - 1 < store.next := by omega
      exact ih (hfirst.derive hlast derivation) (by simp [Store.derive])

/-- A chain that is made from a future without dependants leads from it. -/
theorem chain_leads (hfree : store.dependants (store.next - 1) = [])
    (derivations : List Derivation) :
    (store.chain derivations).1.Leads (store.next - 1) derivations := by
  induction derivations using List.reverseRecOn with
  | nil => exact hfree
  | append_singleton derivations derivation ih =>
      have hnext := next_chain store derivations
      have hlast : (store.chain derivations).1.next - 1 =
          store.next - 1 + derivations.length := by omega
      rw [chain_concat, hlast]
      have hconcat := ih.concat (hfirst.chain hpos derivations) derivation
        .waiting (by omega)
      exact hconcat.keep (keeps_settle _ _) (by rw [next_add]; omega)

/-- A chain that is made from the newest future adds its length to the
derivations of that one. -/
theorem Flat.chain {count : Nat} (depth : Nat) (h : store.Flat count)
    (hnewest : ¬ store.Deep (depth + 1) (store.next - 1))
    {derivations : List Derivation}
    (hlength : depth + derivations.length ≤ count) :
    (store.chain derivations).1.Flat count := by
  induction derivations generalizing store depth with
  | nil => exact h
  | cons derivation rest ih =>
      rw [List.length_cons] at hlength
      have hlast : store.next - 1 < store.next := by omega
      have hnext : (store.derive (store.next - 1) derivation).2.1.next - 1 =
          store.next := by simp [Store.derive]
      have hderived : ¬ (store.derive (store.next - 1) derivation).2.1.Deep
          (depth + 1 + 1)
          ((store.derive (store.next - 1) derivation).2.1.next - 1) := by
        rw [hnext]
        refine fun hdeep => hnewest ?_
        exact deep_addDerived hfirst hlast <| hdeep.congr fun _ _ ho => by
          rwa [Store.derive, origin?_settle] at ho
      have hflat : ¬ store.Deep count (store.next - 1) := fun hdeep =>
        hnewest (hdeep.mono (by omega))
      exact ih (hfirst.derive hlast derivation) (by simp [Store.derive])
        (depth + 1) (h.derive hfirst hlast hflat derivation) hderived (by omega)

end Chain

/-! ## What a chain passes on -/

/-- A chain passes on the outcome of its first future, through all of its
derivations. -/
theorem Leads.outcome? {store : Store}
    (h : Settling (fun _ => False) [] store) :
    ∀ {id : Nat} {derivations : List Derivation}, store.Leads id derivations →
      store.outcome? (id + derivations.length) =
        (store.outcome? id).map (conclude derivations)
  | id, [], _ => by
      show store.outcome? id = _
      cases store.outcome? id <;> rfl
  | id, derivation :: rest, ⟨_, ho, hrest⟩ => by
      have hnext := h.followed ho not_false
      have htail := hrest.outcome? h
      rw [hnext, Option.map_map] at htail
      rw [List.length_cons,
        show id + (rest.length + 1) = id + 1 + rest.length by omega, htail]
      rfl

/-- What the futures of a chain have logged. -/
theorem Leads.logged {store : Store} (h : Settling (fun _ => False) [] store) :
    ∀ {id : Nat} {derivations : List Derivation}, store.Leads id derivations →
      ((List.range' (id + 1) derivations.length).flatMap store.logged) =
        ((store.outcome? id).map (report derivations)).getD []
  | id, [], _ => by cases store.outcome? id <;> rfl
  | id, derivation :: rest, ⟨_, ho, hrest⟩ => by
      have hnext := h.followed ho not_false
      rw [List.length_cons, List.range'_succ, List.flatMap_cons, hrest.logged h, hnext]
      cases hs : store.outcome? id with
      | none => rw [logged_of_not_due (by rw [due?_eq, ho]; simp [hs])]; rfl
      | some outcome => rw [logged_eq ho hs]; rfl

/-- While the first future of a chain is open, all of it is. -/
theorem Leads.open {store : Store} (h : Settling (fun _ => False) [] store) :
    ∀ {id : Nat} {derivations : List Derivation}, store.Leads id derivations →
      store.isOpen id = true →
      ∀ i ≤ derivations.length, store.isOpen (id + i) = true
  | _, [], _, hopen, i, hi => by
      obtain rfl : i = 0 := Nat.le_zero.1 hi
      exact hopen
  | id, derivation :: rest, ⟨_, ho, hrest⟩, hopen, i, hi => by
      have hnext : store.isOpen (id + 1) = true := by
        refine isOpen_iff_outcome?.2 ⟨lt_next_of_origin? ho, ?_⟩
        rw [h.followed ho not_false, (isOpen_iff_outcome?.1 hopen).2]
        rfl
      cases i with
      | zero => exact hopen
      | succ i =>
          rw [show id + (i + 1) = id + 1 + i by omega]
          exact hrest.open h hnext i (by simpa using hi)

/-- The futures of a chain run one after the other, if there is room. -/
theorem Leads.settle_messages :
    ∀ {derivations : List Derivation} {id room : Nat} {store : Store}
      {outcome : Outcome}, store.Leads id derivations →
      store.outcome? id = some outcome →
      (∀ i < derivations.length, store.isOpen (id + 1 + i) = true) →
      derivations.length ≤ room + 1 →
      messages (settle (store.tasks room id) store).2 =
        report derivations outcome
  | [], id, room, store, outcome, hleads, _, _, _ => by
      have hnone : store.dependants id = [] := hleads
      simp [tasks, hnone, report]
  | derivation :: rest, id, room, store, outcome, hleads, hs, hopen, hroom => by
      obtain ⟨hrest, hended⟩ := hleads.afterFirst outcome
      have hstill := isOpen_afterFirst derivation outcome hopen
      rw [derivation.run_fst] at hended
      rw [hleads.settle_cons hs (hopen 0 (Nat.succ_pos _))]
      simp only [messages_append, derivation.messages_run, report]
      congr 1
      cases room with
      | zero =>
          obtain rfl : rest = [] := by
            rw [List.length_cons] at hroom
            exact List.length_eq_zero_iff.1 (by omega)
          simp [report]
      | succ room =>
          rw [upcoming_succ]
          exact hrest.settle_messages hended hstill
            (Nat.le_of_succ_le_succ hroom)

/-- When the first future of a chain ends, the chain logs its report on the
outcome. -/
theorem Leads.finish_messages {store : Store}
    (h : Settling (fun _ => False) [] store) {id : Nat}
    {derivations : List Derivation} {status : Status} {outcome : Outcome}
    (hleads : store.Leads id derivations) (hopen : store.isOpen id = true)
    (hs : status.outcome? = some outcome)
    (hroom : derivations.length ≤ stackRoom + 1) :
    messages (store.finish id status).2 = report derivations outcome := by
  have hlt := lt_next_of_isOpen hopen
  have hended : (store.mark id status).outcome? id = some outcome := by
    rw [outcome?_mark_self status hlt, hs]
  have hreport := (hleads.keep (keeps_mark store id status) hlt).settle_messages
    hended (fun i hi => by
      rw [isOpen_mark_of_ne status (by omega), Nat.add_right_comm]
      exact hleads.open h hopen (i + 1) hi) hroom
  rwa [tasks, dependants_mark] at hreport

end Store
end HostedModules
