/-
HostedModules.Proofs.Future.Evolution — what the operations on futures leave as
it is.

Ending futures only ever turns open futures into ended ones: where a future
comes from never changes, and a future that has ended stays as it ended.

* `Store.origin?` — the source of a derived future, and how it is derived
* `Store.SourcesFirst` — every derived future is younger than its source
* `Store.Extends` — the later store has every future of the earlier one, and the
  ended ones unchanged
* `settle_extends` — running dependants extends the store, `settle_root` — and
  ends derived futures only
-/
import HostedModules.Future.Store

namespace HostedModules

namespace Future

theorem Status.open_iff {status : Status} :
    status.open = true ↔ status = .waiting := by
  cases status <;> simp [Status.open]

theorem Status.outcome?_eq_none_iff {status : Status} :
    status.outcome? = none ↔ status = .waiting := by
  cases status <;> simp [Status.outcome?]

theorem Status.closed_of_outcome? {status : Status} {outcome : Outcome}
    (h : status.outcome? = some outcome) : status.open = false := by
  cases status <;> simp_all [Status.open, Status.outcome?]

theorem Status.closed_iff {status : Status} :
    status.open = false ↔ status.outcome?.isSome := by
  cases status <;> simp [Status.open, Status.outcome?]

end Future

namespace Store

open Future

/-- The source of a derived future, and how it is derived. -/
def origin? (store : Store) (id : Nat) : Option (Nat × Derivation) :=
  (store.cell? id).bind Cell.origin

/-! ## Reading a store after a change -/

theorem cell?_mark (store : Store) (id other : Nat) (status : Status) :
    (store.mark id status).cell? other =
      if other = id then (store.cell? id).map fun cell => { cell with status }
        else store.cell? other := by
  unfold mark cell?
  cases h : store.cells[id]? with
  | none =>
      by_cases ho : other = id
      · subst ho; simp [h]
      · simp [ho]
  | some cell =>
      obtain ⟨hlt, -⟩ := List.getElem?_eq_some_iff.1 h
      by_cases ho : other = id
      · subst ho; simp [hlt]
      · simp [ho, List.getElem?_set_ne (Ne.symm ho)]

theorem cell?_add (store : Store) (cell : Cell) (id : Nat) :
    (store.add cell).cell? id = if id = store.next then some cell
      else store.cell? id := by
  unfold add cell? next
  rw [List.getElem?_append]
  split
  · rename_i h; rw [if_neg (by omega)]
  · rename_i h
    by_cases hid : id = store.cells.length
    · subst hid; simp
    · rw [if_neg hid, List.getElem?_eq_none (by simp; omega),
        List.getElem?_eq_none (by omega)]

theorem cell?_eq_none_iff {store : Store} {id : Nat} :
    store.cell? id = none ↔ store.next ≤ id :=
  List.getElem?_eq_none_iff

theorem lt_next_of_cell? {store : Store} {id : Nat} {cell : Cell}
    (h : store.cell? id = some cell) :
    id < store.next := (List.getElem?_eq_some_iff.1 h).1

@[simp] theorem next_mark (store : Store) (id : Nat) (status : Status) :
    (store.mark id status).next = store.next := by
  unfold mark next
  split <;> simp

@[simp] theorem next_add (store : Store) (cell : Cell) :
    (store.add cell).next = store.next + 1 := by
  simp [add, next]

@[simp] theorem origin?_mark (store : Store) (id other : Nat)
    (status : Status) :
    (store.mark id status).origin? other = store.origin? other := by
  unfold origin?
  rw [cell?_mark]
  split
  · rename_i h; subst h; cases store.cell? other <;> rfl
  · rfl

theorem origin?_add (store : Store) (cell : Cell) (id : Nat) :
    (store.add cell).origin? id = if id = store.next then cell.origin
      else store.origin? id := by
  unfold origin?
  rw [cell?_add]
  split <;> rfl

theorem lt_next_of_origin? {store : Store} {id : Nat}
    {origin : Nat × Derivation} (h : store.origin? id = some origin) :
    id < store.next := by
  obtain ⟨cell, hc, -⟩ := Option.bind_eq_some_iff.1 h
  exact lt_next_of_cell? hc

theorem outcome?_eq (store : Store) (id : Nat) :
    store.outcome? id = (store.cell? id).bind fun cell =>
      cell.status.outcome? := by
  unfold outcome? status?
  cases store.cell? id <;> rfl

theorem outcome?_mark_self {store : Store} {id : Nat} (status : Status)
    (h : id < store.next) :
    (store.mark id status).outcome? id = status.outcome? := by
  cases hc : store.cell? id with
  | none => exact absurd (cell?_eq_none_iff.1 hc) (by omega)
  | some cell => simp [outcome?_eq, cell?_mark, hc]

theorem outcome?_mark_of_ne {store : Store} {id other : Nat} (status : Status)
    (h : other ≠ id) :
    (store.mark id status).outcome? other = store.outcome? other := by
  simp [outcome?_eq, cell?_mark, h]

theorem outcome?_add_of_ne {store : Store} {id : Nat} (cell : Cell)
    (h : id ≠ store.next) :
    (store.add cell).outcome? id = store.outcome? id := by
  simp [outcome?_eq, cell?_add, h]

theorem outcome?_add_self (store : Store) (cell : Cell) :
    (store.add cell).outcome? store.next = cell.status.outcome? := by
  simp [outcome?_eq, cell?_add]

/-- Every derived future is younger than its source. -/
def SourcesFirst (store : Store) : Prop :=
  ∀ id source derivation, store.origin? id = some (source, derivation) →
    source < id

/-! ## Open futures -/

theorem isOpen_iff {store : Store} {id : Nat} :
    store.isOpen id = true ↔ ∃ cell, store.cell? id = some cell ∧
      cell.status = .waiting := by
  unfold isOpen
  cases store.cell? id with
  | none => simp
  | some cell => simp [Cell.open, Status.open_iff]

theorem lt_next_of_isOpen {store : Store} {id : Nat}
    (h : store.isOpen id = true) : id < store.next := by
  obtain ⟨cell, hc, -⟩ := isOpen_iff.1 h
  exact lt_next_of_cell? hc

/-- A future is open exactly if it exists and has no outcome. -/
theorem isOpen_iff_outcome? {store : Store} {id : Nat} :
    store.isOpen id = true ↔ id < store.next ∧ store.outcome? id = none := by
  rw [isOpen_iff, outcome?_eq]
  constructor
  · rintro ⟨cell, hc, hw⟩
    exact ⟨lt_next_of_cell? hc, by simp [hc, hw, Status.outcome?]⟩
  · rintro ⟨hlt, ho⟩
    cases hc : store.cell? id with
    | none => exact absurd (cell?_eq_none_iff.1 hc) (by omega)
    | some cell =>
        exact ⟨cell, rfl,
          Status.outcome?_eq_none_iff.1 (by simpa [hc] using ho)⟩

/-- A future that exists and is not open has ended. -/
theorem ended_of_closed {store : Store} {id : Nat} (hlt : id < store.next)
    (hclosed : store.isOpen id = false) :
    (store.outcome? id).isSome := by
  cases ho : store.outcome? id with
  | some outcome => rfl
  | none =>
      rw [isOpen_iff_outcome?.2 ⟨hlt, ho⟩] at hclosed
      exact absurd hclosed (by simp)

theorem isOpen_mark_of_ne {store : Store} {id other : Nat} (status : Status)
    (h : other ≠ id) :
    (store.mark id status).isOpen other = store.isOpen other := by
  simp [isOpen, cell?_mark, h]

/-! ## Dependants -/

theorem mem_dependants {store : Store} {source id : Nat} :
    id ∈ store.dependants source ↔ ∃ derivation,
      store.origin? id = some (source, derivation) := by
  simp only [dependants, List.mem_filter, List.mem_range, origin?]
  cases hc : store.cell? id with
  | none => simp
  | some cell =>
      have hlt : id < store.cells.length := lt_next_of_cell? hc
      obtain ⟨origin, status⟩ := cell
      rcases origin with _ | ⟨s, derivation⟩ <;> simp [hlt, Cell.dependsOn]

theorem mem_dependants_iff_source {store : Store} {source id : Nat} :
    id ∈ store.dependants source ↔
      (store.origin? id).map Prod.fst = some source := by
  rw [mem_dependants]
  cases store.origin? id with
  | none => simp
  | some origin => obtain ⟨other, derivation⟩ := origin; simp

/-- A dependant is derived from that future and from no other. -/
theorem eq_of_mem_dependants {store : Store} {source other id : Nat}
    {derivation : Derivation} (h : id ∈ store.dependants other)
    (ho : store.origin? id = some (source, derivation)) : source = other := by
  obtain ⟨derivation', ho'⟩ := mem_dependants.1 h
  rw [ho] at ho'
  injection ho' with hsame
  exact (Prod.mk.inj hsame).1

/-- A future has one source at most. -/
theorem source_unique {store : Store} {source other id : Nat}
    (h : id ∈ store.dependants source) (h' : id ∈ store.dependants other) :
    source = other := by
  rw [mem_dependants_iff_source] at h h'
  exact Option.some.inj (h.symm.trans h')

/-- The dependants of a future do not depend on the state of any. -/
@[simp] theorem dependants_mark (store : Store) (id source : Nat)
    (status : Status) :
    (store.mark id status).dependants source = store.dependants source := by
  have hlen : (store.mark id status).cells.length = store.cells.length :=
    next_mark store id status
  unfold dependants
  rw [hlen]
  refine List.filter_congr fun i _ => ?_
  rw [cell?_mark]
  split
  · rename_i h; subst h; cases store.cell? i <;> rfl
  · rfl

/-- The dependants of a future are decided by the sources of all futures. -/
theorem dependants_congr {a b : Store} (hnext : a.next = b.next)
    (hsource : ∀ id, (a.origin? id).map Prod.fst = (b.origin? id).map Prod.fst)
    (source : Nat) :
    a.dependants source = b.dependants source := by
  have hmem : ∀ id, id ∈ a.dependants source ↔ id ∈ b.dependants source := by
    intro id; rw [mem_dependants_iff_source, mem_dependants_iff_source, hsource]
  have hlen : a.cells.length = b.cells.length := hnext
  unfold dependants at hmem ⊢
  rw [hlen] at hmem ⊢
  refine List.filter_congr fun id hid => ?_
  have := hmem id
  simp only [List.mem_filter, hid, true_and] at this
  exact Bool.eq_iff_iff.2 this

theorem dependants_add (store : Store) (cell : Cell) (source : Nat) :
    (store.add cell).dependants source =
      store.dependants source ++ if cell.dependsOn source then [store.next]
        else [] := by
  have hlen : (store.add cell).cells.length = store.cells.length + 1 :=
    next_add store cell
  unfold dependants
  rw [hlen, List.range_succ, List.filter_append]
  congr 1
  · refine List.filter_congr fun id hid => ?_
    have hlt : id < store.next := List.mem_range.1 hid
    rw [cell?_add, if_neg (by omega)]
  · have hnew : (store.add cell).cell? store.cells.length = some cell := by
      rw [cell?_add]; exact if_pos rfl
    rw [List.filter_cons, hnew, Option.map_some, Option.getD_some,
      List.filter_nil]
    rfl

theorem dependants_eq_nil {store : Store} {source : Nat}
    (h : ∀ id derivation, store.origin? id ≠ some (source, derivation)) :
    store.dependants source = [] := by
  rw [List.eq_nil_iff_forall_not_mem]
  intro id hmem
  obtain ⟨derivation, ho⟩ := mem_dependants.1 hmem
  exact h id derivation ho

/-! ## Running dependants, one case at a time -/

theorem due?_eq (store : Store) (id : Nat) :
    store.due? id = (store.origin? id).bind fun origin =>
      (store.outcome? origin.1).map (origin.2.run id) := by
  unfold due? origin?
  cases store.cell? id with
  | none => rfl
  | some cell =>
      obtain ⟨origin, status⟩ := cell
      rcases origin with _ | ⟨source, derivation⟩
      · rfl
      · show (store.outcome? source).bind
          (fun outcome => some (derivation.run id outcome)) =
          (store.outcome? source).map (derivation.run id)
        exact Option.map_eq_bind.symm

/-- A future is due if it is derived from one that has ended. -/
theorem due?_eq_some_iff {store : Store} {id : Nat}
    {result : Outcome × List Event} :
    store.due? id = some result ↔
      ∃ source derivation outcome,
        store.origin? id = some (source, derivation) ∧
        store.outcome? source = some outcome ∧
          derivation.run id outcome = result := by
  rw [due?_eq]
  constructor
  · intro h
    obtain ⟨⟨source, derivation⟩, ho, hm⟩ := Option.bind_eq_some_iff.1 h
    obtain ⟨outcome, hs, hr⟩ := Option.map_eq_some_iff.1 hm
    exact ⟨source, derivation, outcome, ho, hs, hr⟩
  · rintro ⟨source, derivation, outcome, ho, hs, hr⟩
    simp [ho, hs, hr]

/-- A number that no future has yet is no future to run. -/
theorem due?_of_next_le {store : Store} {id : Nat} (h : store.next ≤ id) :
    store.due? id = none := by
  rw [due?_eq, origin?, cell?_eq_none_iff.2 h]
  rfl

/-- A future is due exactly if it is derived and its source has ended. -/
theorem due?_isSome_iff {store : Store} {id : Nat} :
    (store.due? id).isSome ↔
      ∃ source derivation, store.origin? id = some (source, derivation) ∧
        (store.outcome? source).isSome := by
  simp only [Option.isSome_iff_exists, due?_eq_some_iff]
  constructor
  · rintro ⟨result, source, derivation, outcome, ho, hs, -⟩
    exact ⟨source, derivation, ho, outcome, hs⟩
  · rintro ⟨source, derivation, ho, outcome, hs⟩
    exact ⟨_, source, derivation, outcome, ho, hs, rfl⟩

/-- A future that is added leaves the others as due as they were. -/
theorem due?_add_of_ne {store : Store} (hfirst : store.SourcesFirst)
    (cell : Cell) {id : Nat} (hne : id ≠ store.next) :
    (store.add cell).due? id = store.due? id := by
  rw [due?_eq, due?_eq, origin?_add, if_neg hne]
  cases ho : store.origin? id with
  | none => rfl
  | some origin =>
      have hlt := Nat.lt_trans (hfirst id origin.1 origin.2 ho)
        (lt_next_of_origin? ho)
      rw [Option.bind_some, Option.bind_some,
        outcome?_add_of_ne cell (Nat.ne_of_lt hlt)]

/-- A new future that is derived from none is not due. -/
theorem due?_add_root (store : Store) (status : Status) :
    (store.add ⟨none, status⟩).due? store.next = none := by
  rw [due?_eq, origin?_add, if_pos rfl]
  rfl

/-- A future that is derived anew is due at once if its source has ended, and is
not due if it has not. -/
theorem due?_add_self {store : Store} {source : Nat} (derivation : Derivation)
    (hlt : source < store.next) :
    (store.add ⟨some (source, derivation), .waiting⟩).due? store.next =
      (store.outcome? source).map (derivation.run store.next) := by
  rw [due?_eq, origin?_add, if_pos rfl, Option.bind_some,
    outcome?_add_of_ne _ (Nat.ne_of_lt hlt)]

@[simp] theorem settle_nil (store : Store) : settle [] store = (store, []) :=
  by rw [settle]

theorem settle_idle {store : Store} {task : Task} (rest : List Task)
    (h : store.due? task.id = none) :
    settle (task :: rest) store = settle rest store := by
  rw [settle, h]

/-- Nothing is run when a future is derived from one that has not ended. -/
theorem settle_add_waiting {store : Store} {source : Nat}
    {derivation : Derivation} (hlt : source < store.next)
    (hs : store.outcome? source = none) (room : Nat) :
    settle [⟨room, store.next⟩]
      (store.add ⟨some (source, derivation), .waiting⟩) =
      (store.add ⟨some (source, derivation), .waiting⟩, []) := by
  have hdue := due?_add_self derivation hlt
  rw [hs, Option.map_none] at hdue
  rw [settle_idle [] hdue, settle_nil]

theorem settle_due {store : Store} {task : Task} {outcome : Outcome}
    {events : List Event} (rest : List Task)
    (h : store.due? task.id = some (outcome, events))
    (hopen : store.isOpen task.id = true) :
    settle (task :: rest) store =
      ((settle (store.upcoming task rest)
        (store.mark task.id (.finished outcome))).1,
        events ++ (settle (store.upcoming task rest)
          (store.mark task.id (.finished outcome))).2) := by
  rw [settle, h]
  simp only [hopen, if_true]

theorem settle_late {store : Store} {task : Task} {outcome : Outcome}
    {events : List Event} (rest : List Task)
    (h : store.due? task.id = some (outcome, events))
    (hopen : store.isOpen task.id = false) :
    settle (task :: rest) store =
      ((settle (unwind rest) store).1,
        events ++ (settle (unwind rest) store).2) := by
  rw [settle, h]
  simp only [hopen, Bool.false_eq_true, if_false]

/-- Induction along a run of dependants: nothing to do, a future that is not
due, one that is run, and one that is run too late to end by it. -/
theorem settle_induction {motive : List Task → Store → Prop}
    (nil : ∀ store, motive [] store)
    (idle : ∀ task rest store, store.due? task.id = none → motive rest store →
      motive (task :: rest) store)
    (due : ∀ task rest store outcome events,
      store.due? task.id = some (outcome, events) →
      store.isOpen task.id = true →
      motive (store.upcoming task rest)
      (store.mark task.id (.finished outcome)) → motive (task :: rest) store)
    (late : ∀ task rest store outcome events,
      store.due? task.id = some (outcome, events) →
      store.isOpen task.id = false → motive (unwind rest) store →
      motive (task :: rest) store)
    (work : List Task) (store : Store) : motive work store := by
  fun_induction settle work store with
  | case1 store => exact nil store
  | case2 store task rest h ih => exact idle task rest store h ih
  | case3 store task rest outcome events h hopen _ _ _ ih =>
      exact due task rest store outcome events h hopen ih
  | case4 store task rest outcome events h hopen _ _ _ ih =>
      exact late task rest store outcome events h (by simpa using hopen) ih

/-! ## Extension -/

/-- The later store has every future of the earlier one, of the same origin, and
every one that had ended just as it was. -/
def Extends (earlier later : Store) : Prop :=
  ∀ id cell, earlier.cell? id = some cell →
    ∃ cell', later.cell? id = some cell' ∧ cell'.origin = cell.origin ∧
      (cell.open = false → cell' = cell)

theorem Extends.refl (store : Store) : store.Extends store :=
  fun _ cell h => ⟨cell, h, rfl, fun _ => rfl⟩

theorem Extends.trans {a b c : Store} (hab : a.Extends b) (hbc : b.Extends c) :
    a.Extends c := by
  intro id cell h
  obtain ⟨cell₁, h₁, ho₁, he₁⟩ := hab id cell h
  obtain ⟨cell₂, h₂, ho₂, he₂⟩ := hbc id cell₁ h₁
  refine ⟨cell₂, h₂, ho₂.trans ho₁, fun hc => ?_⟩
  have heq := he₁ hc
  subst heq
  exact he₂ hc

theorem extends_mark {store : Store} {id : Nat} (status : Status)
    (hopen : store.isOpen id = true) :
    store.Extends (store.mark id status) := by
  intro other cell h
  by_cases ho : other = id
  · subst ho
    obtain ⟨cell', hc, hw⟩ := isOpen_iff.1 hopen
    have heq : cell' = cell := by simpa [hc] using h
    subst heq
    refine ⟨{ cell' with status }, by simp [cell?_mark, h], rfl,
      fun hclosed => ?_⟩
    simp [Cell.open, hw, Status.open] at hclosed
  · exact ⟨cell, by simp [cell?_mark, ho, h], rfl, fun _ => rfl⟩

theorem extends_add (store : Store) (cell : Cell) :
    store.Extends (store.add cell) := by
  intro id old h
  refine ⟨old, ?_, rfl, fun _ => rfl⟩
  rw [cell?_add, if_neg (Nat.ne_of_lt (lt_next_of_cell? h)), h]

/-- Origins stay. -/
theorem Extends.origin? {earlier later : Store} (h : earlier.Extends later)
    {id : Nat} (hlt : id < earlier.next) :
    later.origin? id = earlier.origin? id := by
  cases hc : earlier.cell? id with
  | none => exact absurd (cell?_eq_none_iff.1 hc) (by omega)
  | some cell =>
      obtain ⟨cell', hc', ho, -⟩ := h id cell hc
      simp [Store.origin?, hc, hc', ho]

/-- Outcomes stay. -/
theorem Extends.outcome? {earlier later : Store} (h : earlier.Extends later)
    {id : Nat} {outcome : Outcome} (ho : earlier.outcome? id = some outcome) :
    later.outcome? id = some outcome := by
  rw [outcome?_eq] at ho
  obtain ⟨cell, hc, hs⟩ := Option.bind_eq_some_iff.1 ho
  have hclosed : cell.open = false := by
    cases hst : cell.status <;> simp [hst, Status.outcome?] at hs <;>
      simp [Cell.open, hst, Status.open]
  obtain ⟨cell', hc', -, he⟩ := h id cell hc
  have heq := he hclosed
  subst heq
  rw [outcome?_eq, hc']
  exact hs

/-- A future that has no more of an outcome than before is as it was. -/
theorem Extends.cell? {earlier later : Store} (h : earlier.Extends later)
    {id : Nat} (hlt : id < earlier.next)
    (ho : later.outcome? id = earlier.outcome? id) :
    later.cell? id = earlier.cell? id := by
  cases hc : earlier.cell? id with
  | none => exact absurd (cell?_eq_none_iff.1 hc) (by omega)
  | some cell =>
      obtain ⟨cell', hc', horigin, hclosed⟩ := h id cell hc
      rw [hc']
      cases hopen : cell.open with
      | false => rw [hclosed hopen]
      | true =>
          have hwaiting : cell.status = .waiting := Status.open_iff.1 hopen
          rw [outcome?_eq, outcome?_eq, hc, hc'] at ho
          simp only [Option.bind_some, hwaiting] at ho
          have hwaiting' : cell'.status = .waiting :=
            Status.outcome?_eq_none_iff.1 ho
          obtain ⟨origin, status⟩ := cell
          obtain ⟨origin', status'⟩ := cell'
          obtain rfl : origin' = origin := horigin
          rw [show status' = status from hwaiting'.trans hwaiting.symm]

theorem Extends.next_le {earlier later : Store} (h : earlier.Extends later) :
    earlier.next ≤ later.next := by
  cases hcell : earlier.cell? later.next with
  | none => exact cell?_eq_none_iff.1 hcell
  | some cell =>
      obtain ⟨cell', hcell', -⟩ := h _ cell hcell
      exact absurd (lt_next_of_cell? hcell') (Nat.lt_irrefl _)

/-- A future that has been run is not run otherwise later. -/
theorem Extends.due? {earlier later : Store} (h : earlier.Extends later)
    {id : Nat} {result : Outcome × List Event}
    (hdue : earlier.due? id = some result) : later.due? id = some result := by
  obtain ⟨source, derivation, outcome, horigin, hsource, hrun⟩ :=
    due?_eq_some_iff.1 hdue
  exact due?_eq_some_iff.2
    ⟨source, derivation, outcome,
      (h.origin? (lt_next_of_origin? horigin)).trans horigin,
      h.outcome? hsource, hrun⟩

theorem settle_extends (work : List Task) (store : Store) :
    store.Extends (settle work store).1 := by
  induction work, store using settle_induction with
  | nil store => rw [settle_nil]; exact Extends.refl store
  | idle task rest store h ih => rw [settle_idle rest h]; exact ih
  | due task rest store outcome events h hopen ih =>
      rw [settle_due rest h hopen]
      exact (extends_mark _ hopen).trans ih
  | late task rest store outcome events h hopen ih =>
      rw [settle_late rest h hopen]; exact ih

@[simp] theorem next_settle (work : List Task) (store : Store) :
    (settle work store).1.next = store.next := by
  induction work, store using settle_induction with
  | nil store => rw [settle_nil]
  | idle task rest store h ih => rw [settle_idle rest h, ih]
  | due task rest store outcome events h hopen ih =>
      rw [settle_due rest h hopen, ih, next_mark]
  | late task rest store outcome events h hopen ih =>
      rw [settle_late rest h hopen, ih]

@[simp] theorem origin?_settle (work : List Task) (store : Store) (id : Nat) :
    (settle work store).1.origin? id = store.origin? id := by
  by_cases hlt : id < store.next
  · exact (settle_extends work store).origin? hlt
  · have h₁ : store.cell? id = none := cell?_eq_none_iff.2 (by omega)
    have h₂ : (settle work store).1.cell? id = none :=
      cell?_eq_none_iff.2 (by rw [next_settle]; omega)
    simp [origin?, h₁, h₂]

@[simp] theorem dependants_settle (work : List Task) (store : Store)
    (source : Nat) :
    (settle work store).1.dependants source = store.dependants source :=
  dependants_congr (next_settle work store) (fun id => by
    rw [origin?_settle]) source

/-- Running dependants ends derived futures only. -/
theorem settle_root (work : List Task) {store : Store} {id : Nat}
    (hroot : store.origin? id = none) :
    (settle work store).1.cell? id = store.cell? id := by
  induction work, store using settle_induction with
  | nil store => rw [settle_nil]
  | idle task rest store h ih => rw [settle_idle rest h]; exact ih hroot
  | due task rest store outcome events h hopen ih =>
      rw [settle_due rest h hopen, ih (by simpa using hroot), cell?_mark, if_neg]
      rintro rfl
      obtain ⟨source, derivation, -, ho, -⟩ := due?_eq_some_iff.1 h
      rw [hroot] at ho
      exact absurd ho (by simp)
  | late task rest store outcome events h hopen ih =>
      rw [settle_late rest h hopen]; exact ih hroot

/-! ## Sources come first -/

section SourcesFirst

variable {store : Store} (hfirst : store.SourcesFirst)

include hfirst

theorem SourcesFirst.mark (id : Nat) (status : Status) :
    (store.mark id status).SourcesFirst := by
  intro other source derivation ho
  rw [origin?_mark] at ho
  exact hfirst other source derivation ho

theorem SourcesFirst.settle (work : List Task) :
    (Store.settle work store).1.SourcesFirst := by
  intro id source derivation ho
  rw [origin?_settle] at ho
  exact hfirst id source derivation ho

theorem SourcesFirst.finish (id : Nat) (status : Status) :
    (store.finish id status).1.SourcesFirst :=
  (hfirst.mark id status).settle _

/-- A new future may be derived from any that is there before it. -/
theorem SourcesFirst.add {cell : Cell}
    (hcell : ∀ source derivation, cell.origin = some (source, derivation) →
      source < store.next) : (store.add cell).SourcesFirst := by
  intro id source derivation ho
  rw [origin?_add] at ho
  split at ho
  · next hid => exact hid ▸ hcell source derivation ho
  · exact hfirst id source derivation ho

theorem SourcesFirst.addRoot (status : Status) :
    (store.add ⟨none, status⟩).SourcesFirst :=
  hfirst.add fun _ _ ho => absurd ho (by simp)

theorem SourcesFirst.addDerived {source : Nat} (hlt : source < store.next)
    (derivation : Derivation) (status : Status) :
    (store.add ⟨some (source, derivation), status⟩).SourcesFirst := by
  refine hfirst.add ?_
  rintro _ _ ⟨rfl, rfl⟩
  exact hlt

theorem SourcesFirst.derive {source : Nat} (hlt : source < store.next)
    (derivation : Derivation) :
    (store.derive source derivation).2.1.SourcesFirst :=
  (hfirst.addDerived hlt derivation .waiting).settle _

/-- Dependants are younger than their source. -/
theorem SourcesFirst.lt_of_mem_dependants {source id : Nat}
    (h : id ∈ store.dependants source) : source < id := by
  obtain ⟨derivation, ho⟩ := mem_dependants.1 h
  exact hfirst id source derivation ho

/-- Nothing is derived from the newest future yet. -/
theorem SourcesFirst.dependants_newest {id : Nat} (h : store.next = id + 1) :
    store.dependants id = [] := by
  refine dependants_eq_nil fun other derivation ho => ?_
  have hold := hfirst other id derivation ho
  have hnew := lt_next_of_origin? ho
  omega

end SourcesFirst

/-! ## Ending one future -/

theorem finish_extends {store : Store} {id : Nat} (status : Status)
    (hopen : store.isOpen id = true) :
    store.Extends (store.finish id status).1 :=
  (extends_mark status hopen).trans (settle_extends _ _)

/-- Ending one future ends no other but derived ones. -/
theorem finish_root {store : Store} {id other : Nat} (status : Status)
    (hroot : store.origin? id = none) (hne : id ≠ other) :
    (store.finish other status).1.cell? id = store.cell? id := by
  rw [finish, settle_root _ (by rw [origin?_mark, hroot]), cell?_mark,
    if_neg hne]

/-- A future that is ended from outside keeps the outcome that it was given. -/
theorem outcome?_finish_self {store : Store} {id : Nat} {status : Status}
    {outcome : Outcome} (hlt : id < store.next)
    (hs : status.outcome? = some outcome) :
    (store.finish id status).1.outcome? id = some outcome :=
  (settle_extends _ _).outcome? (by rw [outcome?_mark_self status hlt, hs])

@[simp] theorem next_finish (store : Store) (id : Nat) (status : Status) :
    (store.finish id status).1.next = store.next := by simp [finish]

end Store
end HostedModules
