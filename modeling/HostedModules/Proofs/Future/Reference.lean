/-
HostedModules.Proofs.Future.Reference — what derived futures end with, whatever
the order of events.

The store ends futures by running callbacks inside callbacks.  What comes of it
is told here without any order: a derived future has an outcome as soon as its
source has one, namely what its derivation refers it to.  That it has one is
true while there is room for the callbacks on the stack; that it has no other
one is true in any case.

* `Derivation.conversion`, `Derivation.recovery` — the two hooks of a
  derivation; suppression is a recovery
* `Derivation.reference` — what the two hooks make of the outcome of the source
* `Store.Truthful` — no derived future has ended otherwise than by its source
* `Store.Settling` — the invariant of runs that fit: a derived future follows
  its source, or waits in the list of work
* `derived_outcome` — what derived futures end with after every run
-/
import HostedModules.Proofs.Future.Reach

namespace HostedModules

namespace Failure.Kind

theorem isA_alreadyInDesiredState {kind : Kind} :
    kind.isA .alreadyInDesiredState = true ↔ kind = .alreadyInDesiredState := by
  cases kind <;> simp [isA, broader]

end Failure.Kind

namespace Future
namespace Derivation

/-! ## The reference -/

/-- The conversion of answers, if there is one. -/
def conversion : Derivation → Option (Answer → Outcome)
  | .transform convert _ => convert
  | .suppress _ => none

/-- The recovery from failures, if there is one. -/
def recovery : Derivation → Option (Failure → Outcome)
  | .transform _ recover => recover
  | .suppress _ => some fun failure =>
    if failure.kind = .alreadyInDesiredState then suppressed else .error failure

/-- The outcome of the source with its answer converted. -/
def converted (derivation : Derivation) : Outcome → Outcome
  | .error failure => .error failure
  | .ok answer =>
    match derivation.conversion with
    | some convert => convert answer
    | none => .ok answer

/-- What a derived future is to end with: the converted outcome, recovered from
if it is a failure that work may recover from. -/
def reference (derivation : Derivation) (source : Outcome) : Outcome :=
  match derivation.converted source, derivation.recovery with
  | .error failure, some recover =>
    if failure.kind.recoverable then recover failure else .error failure
  | outcome, _ => outcome

theorem convertWith_fst (id : Nat) (convert : Option (Answer → Outcome))
    (recover : Option (Failure → Outcome)) (source : Outcome) :
    (convertWith id convert source).1 =
      (transform convert recover).converted source := by
  rcases source with failure | answer <;> rcases convert with _ | f <;> rfl

/-- Running a derivation yields its reference outcome. -/
theorem run_fst (id : Nat) (derivation : Derivation) (source : Outcome) :
    (derivation.run id source).1 = derivation.reference source := by
  cases derivation with
  | transform convert recover =>
      show (recoverWith id recover (convertWith id convert source).1).1 = _
      rw [convertWith_fst id convert recover]
      unfold reference
      rcases hs :
        (transform convert recover).converted source with failure | answer <;>
        rcases recover with _ | f <;> simp only [recovery, recoverWith]
      split <;> rfl
  | suppress message =>
      rcases source with failure | answer
      · by_cases hk : failure.kind = .alreadyInDesiredState
        · have hr : failure.kind.recoverable = true := by rw [hk]; decide
          simp [run, reference, converted, recovery,
            Failure.Kind.isA_alreadyInDesiredState, hk]
          exact fun h => absurd (hk ▸ hr) (by simp [h])
        · simp [run, reference, converted, recovery,
            Failure.Kind.isA_alreadyInDesiredState, hk]
      · rfl

/-- A recovery is called for its own future only, and for no failure but one
that work may recover from. -/
theorem recovered_mem_run {id called : Nat} {derivation : Derivation}
    {source : Outcome}
    (h : Event.recovered called ∈ (derivation.run id source).2) :
    called = id ∧ ∃ failure, derivation.converted source = .error failure ∧
      failure.kind.recoverable = true := by
  cases derivation with
  | suppress message =>
      rcases source with failure | answer
      · simp only [run] at h
        split at h <;> simp at h
      · simp [run] at h
  | transform convert recover =>
      have hfirst : Event.recovered called ∉
          (convertWith id convert source).2 := by
        rcases source with failure | answer <;> rcases convert with _ | f <;>
          simp [convertWith]
      have hsecond : Event.recovered called ∈
          (recoverWith id recover
            ((transform convert recover).converted source)).2 := by
        rw [← convertWith_fst id]
        exact (List.mem_append.1 h).resolve_left hfirst
      rcases hs :
        (transform convert recover).converted source with failure | answer
      · rw [hs] at hsecond
        rcases recover with _ | f
        · simp [recoverWith] at hsecond
        · simp only [recoverWith] at hsecond
          split at hsecond
          · rename_i hr
            exact ⟨by simpa using hsecond, failure, rfl, hr⟩
          · simp at hsecond
      · rw [hs] at hsecond
        simp [recoverWith] at hsecond

end Derivation
end Future

namespace Store

open Future

/-- A derived future is run with the reference outcome. -/
theorem reference_of_due {store : Store} {id source : Nat}
    {derivation : Derivation} {outcome : Outcome} {events : List Event}
    (hdue : store.due? id = some (outcome, events))
    (ho : store.origin? id = some (source, derivation)) :
    (store.outcome? source).map derivation.reference = some outcome := by
  obtain ⟨source', derivation', end', ho', hs, hr⟩ := due?_eq_some_iff.1 hdue
  obtain ⟨rfl, rfl⟩ : source = source' ∧ derivation = derivation' := by
    simpa [ho] using ho'
  rw [hs, Option.map_some, ← derivation.run_fst id end', hr]

/-! ## No other outcome -/

/-- A derived future that has ended, unless it is exempt, has ended as its
source makes it end. -/
def Truthful (exempt : Nat → Prop) (store : Store) : Prop :=
  ∀ id source derivation outcome, ¬ exempt id →
    store.origin? id = some (source, derivation) →
    store.outcome? id = some outcome →
    (store.outcome? source).map derivation.reference = some outcome

section Truthful

variable {exempt exempt' : Nat → Prop} {store : Store}

theorem Truthful.weaken (h : Truthful exempt store)
    (hexempt : ∀ id, exempt id → exempt' id) : Truthful exempt' store :=
  fun id source derivation outcome hfree =>
    h id source derivation outcome fun he => hfree (hexempt id he)

theorem Truthful.mark (h : Truthful exempt store) {id : Nat} {status : Status}
    (hopen : store.isOpen id = true)
    (hright : ∀ source derivation outcome, ¬ exempt id →
      store.origin? id = some (source, derivation) →
      status.outcome? = some outcome →
      (store.outcome? source).map derivation.reference = some outcome) :
    Truthful exempt (store.mark id status) := by
  intro other source derivation outcome hfree ho hended
  rw [origin?_mark] at ho
  have hold :
      (store.outcome? source).map derivation.reference = some outcome := by
    by_cases hid : other = id
    · subst hid
      rw [outcome?_mark_self status (lt_next_of_isOpen hopen)] at hended
      exact hright source derivation outcome hfree ho hended
    · rw [outcome?_mark_of_ne status hid] at hended
      exact h other source derivation outcome hfree ho hended
  obtain ⟨given, hgiven, rfl⟩ := Option.map_eq_some_iff.1 hold
  rw [(extends_mark status hopen).outcome? hgiven, Option.map_some]

theorem Truthful.settle {work : List Task} (h : Truthful exempt store) :
    Truthful exempt (settle work store).1 := by
  induction work, store using settle_induction with
  | nil store => rw [settle_nil]; exact h
  | idle task rest store hdue ih => rw [settle_idle rest hdue]; exact ih h
  | due task rest store outcome events hdue hopen ih =>
      rw [settle_due rest hdue hopen]
      refine ih (h.mark hopen fun source derivation given _ ho hgiven => ?_)
      obtain rfl : outcome = given := by simpa [Status.outcome?] using hgiven
      exact reference_of_due hdue ho
  | late task rest store outcome events hdue hclosed ih =>
      rw [settle_late rest hdue hclosed]
      exact ih h

theorem Truthful.add (h : Truthful exempt store) (hfirst : store.SourcesFirst)
    {cell : Cell} (hnew : cell.origin = none ∨ cell.status = .waiting) :
    Truthful exempt (store.add cell) := by
  intro id source derivation outcome hfree ho hended
  by_cases hid : id = store.next
  · subst hid
    rw [origin?_add, if_pos rfl] at ho
    rw [outcome?_add_self] at hended
    rcases hnew with hroot | hwaiting
    · rw [hroot] at ho
      exact absurd ho (by simp)
    · rw [hwaiting] at hended
      exact absurd hended (by simp [Status.outcome?])
  · rw [origin?_add, if_neg hid] at ho
    rw [outcome?_add_of_ne cell hid] at hended
    have hlt := Nat.lt_trans (hfirst id source derivation ho)
      (lt_next_of_origin? ho)
    rw [outcome?_add_of_ne cell (Nat.ne_of_lt hlt)]
    exact h id source derivation outcome hfree ho hended

end Truthful

/-- After every run, the derived futures that have ended, and that the run did
not set, have ended as their sources make them end. -/
theorem truthful_after (ops : List Op) :
    Truthful (fun id => ∃ outcome, SetBy ops id outcome) (after ops) := by
  induction ops using List.reverseRecOn with
  | nil => exact fun _ _ _ _ _ ho => by simp [origin?, cell?, empty] at ho
  | append_singleton ops op ih =>
      rw [after_concat]
      have hfirst := sourcesFirst_after ops
      have hkeep : ∀ op, Truthful
          (fun id => ∃ outcome, SetBy (ops ++ [op]) id outcome) (after ops) :=
        fun op => ih.weaken fun id hset =>
          hset.imp fun _ hset => setBy_concat.2 (Or.inl hset)
      refine step_cases (motive := fun op result =>
        Truthful (fun id => ∃ outcome, SetBy (ops ++ [op]) id outcome) result.1)
        ?_ ?_ ?_ ?_ ?_ op
      · intro op status _
        exact (hkeep op).add hfirst (Or.inl rfl)
      · intro id outcome hopen
        have hset : SetBy (ops ++ [.set id outcome]) id outcome :=
          setBy_concat.2 (Or.inr ⟨rfl, hopen⟩)
        exact ((hkeep _).mark hopen fun _ _ _ hfree =>
          absurd ⟨outcome, hset⟩ hfree).settle
      · intro id hopen hroot
        exact ((hkeep _).mark hopen fun _ _ _ _ ho =>
          absurd (hroot.symm.trans ho) (by simp)).settle
      · intro source derivation _
        exact ((hkeep _).add hfirst (Or.inr rfl)).settle
      · intro op _
        exact hkeep op

/-! ## The invariant of runs that fit -/

/-- Every derived future is younger than its source.  Unless it is exempt, it
has an outcome exactly if its source has one, which is the reference outcome, or
else it is waiting in the list of work. -/
structure Settling (exempt : Nat → Prop) (work : List Nat)
    (store : Store) : Prop where
  older : store.SourcesFirst
  follows : ∀ id source derivation,
    store.origin? id = some (source, derivation) → ¬ exempt id →
    id ∈ work ∧ store.outcome? id = none ∨
      store.outcome? id = (store.outcome? source).map derivation.reference

theorem Settling.weaken {exempt exempt' : Nat → Prop} {work : List Nat}
    {store : Store} (h : Settling exempt work store)
    (hexempt : ∀ id, exempt id → exempt' id) :
    Settling exempt' work store :=
  ⟨h.older, fun id source derivation ho hfree =>
    h.follows id source derivation ho fun he => hfree (hexempt id he)⟩

/-- When no work is left, a derived future that is not exempt has followed its
source. -/
theorem Settling.followed {exempt : Nat → Prop} {store : Store}
    (h : Settling exempt [] store) {id source : Nat} {derivation : Derivation}
    (ho : store.origin? id = some (source, derivation)) (hfree : ¬ exempt id) :
    store.outcome? id = (store.outcome? source).map derivation.reference := by
  rcases h.follows id source derivation ho hfree with ⟨hmem, -⟩ | heq
  · exact absurd hmem List.not_mem_nil
  · exact heq

/-- Ending a future in the right way leaves only its dependants behind. -/
theorem Settling.mark {exempt exempt' : Nat → Prop} {work work' : List Nat}
    {store : Store} {id : Nat} {status : Status}
    (h : Settling exempt work store) (hopen : store.isOpen id = true)
    (hright : ∀ source derivation,
      store.origin? id = some (source, derivation) → ¬ exempt' id →
      status.outcome? = (store.outcome? source).map derivation.reference)
    (hexempt : ∀ other, exempt other → exempt' other)
    (hwork : ∀ other ∈ work, other ≠ id → other ∈ work') :
    Settling exempt' (store.dependants id ++ work') (store.mark id status) := by
  obtain ⟨hlt, hnone⟩ := isOpen_iff_outcome?.1 hopen
  refine ⟨fun other source derivation ho => h.older other source derivation
    (by simpa using ho), ?_⟩
  intro other source derivation ho hfree
  rw [origin?_mark] at ho
  have hage := h.older other source derivation ho
  by_cases hid : other = id
  · subst hid
    right
    rw [outcome?_mark_self status hlt,
      outcome?_mark_of_ne status (Nat.ne_of_lt hage)]
    exact hright source derivation ho hfree
  · rw [outcome?_mark_of_ne status hid]
    have hold := h.follows other source derivation ho fun he =>
      hfree (hexempt other he)
    by_cases hs : source = id
    · -- the source ends just now, so the future was open and is a dependant
      subst hs
      refine Or.inl ⟨List.mem_append_left _ (mem_dependants.2 ⟨derivation, ho⟩), ?_⟩
      rcases hold with ⟨-, hold⟩ | hold
      · exact hold
      · rw [hold, hnone]; rfl
    · rw [outcome?_mark_of_ne status hs]
      rcases hold with ⟨hmem, hold⟩ | hold
      · exact Or.inl ⟨List.mem_append_right _ (hwork other hmem hid), hold⟩
      · exact Or.inr hold

/-- When all work is done, every derived future has followed its source. -/
theorem Settling.settle {exempt : Nat → Prop} {work : List Task} {store : Store}
    (h : Settling exempt (work.map Task.id) store) (hfits : store.Fits work) :
    Settling exempt [] (settle work store).1 := by
  induction work, store using settle_induction with
  | nil store => rw [settle_nil]; exact h
  | idle task rest store hdue ih =>
      rw [settle_idle rest hdue]
      refine ih ⟨h.older, fun other source derivation ho hfree => ?_⟩ hfits.tail
      rcases h.follows other source derivation ho hfree with ⟨hmem,
        hnone⟩ | hold
      · by_cases hid : other = task.id
        · subst hid
          right
          rw [due?_eq, ho, Option.bind_some, Option.map_eq_none_iff] at hdue
          rw [hnone, hdue]; rfl
        · exact Or.inl ⟨(List.mem_cons.1 hmem).resolve_left hid, hnone⟩
      · exact Or.inr hold
  | due task rest store outcome events hdue hopen ih =>
      rw [settle_due rest hdue hopen]
      rw [hfits.upcoming] at ih ⊢
      refine ih ?_ (hfits.mark hopen rfl)
      rw [List.map_append, map_id_tasks]
      refine h.mark hopen (fun source derivation ho _ => ?_) (fun _ he => he)
        fun other hmem hid => (List.mem_cons.1 hmem).resolve_left hid
      exact (reference_of_due hdue ho).symm
  | late task rest store outcome events hdue hclosed ih =>
      rw [settle_late rest hdue hclosed]
      rw [hfits.tail.unwind] at ih ⊢
      refine ih ⟨h.older, fun other source derivation ho hfree => ?_⟩ hfits.tail
      rcases h.follows other source derivation ho hfree with ⟨hmem,
        hnone⟩ | hold
      · refine Or.inl ⟨(List.mem_cons.1 hmem).resolve_left ?_, hnone⟩
        rintro rfl
        rw [isOpen_iff_outcome?.2 ⟨lt_next_of_origin? ho, hnone⟩] at hclosed
        exact absurd hclosed (by simp)
      · exact Or.inr hold

theorem settling_empty (exempt : Nat → Prop) : Settling exempt [] .empty :=
  ⟨fun _ _ _ h => by simp [origin?, cell?, empty] at h,
    fun _ _ _ h => by simp [origin?, cell?, empty] at h⟩

/-- A new future joins the others, waiting for its turn if it is derived from
one of them. -/
theorem Settling.add {exempt : Nat → Prop} {store : Store}
    (h : Settling exempt [] store) (cell : Cell)
    (hnew : ∀ source derivation, cell.origin = some (source, derivation) →
      source < store.next ∧ cell.status = .waiting) :
    Settling exempt [store.next] (store.add cell) := by
  have hold : ∀ id source derivation, id ≠ store.next →
      (store.add cell).origin? id = some (source, derivation) →
      store.origin? id = some (source, derivation) := by
    intro id source derivation hid ho
    rwa [origin?_add, if_neg hid] at ho
  constructor
  · intro id source derivation ho
    by_cases hid : id = store.next
    · subst hid
      rw [origin?_add, if_pos rfl] at ho
      exact (hnew source derivation ho).1
    · exact h.older id source derivation (hold id source derivation hid ho)
  · intro id source derivation ho hfree
    by_cases hid : id = store.next
    · subst hid
      rw [origin?_add, if_pos rfl] at ho
      rw [outcome?_add_self, (hnew source derivation ho).2]
      exact Or.inl ⟨List.mem_singleton_self _, rfl⟩
    · have ho' := hold id source derivation hid ho
      have hlt := lt_next_of_origin? ho'
      have hage := h.older id source derivation ho'
      rw [outcome?_add_of_ne cell hid, outcome?_add_of_ne cell (by omega)]
      exact Or.inr (h.followed ho' hfree)

/-- A new future that is derived from none waits for nothing. -/
theorem Settling.addRoot {exempt : Nat → Prop} {store : Store}
    (h : Settling exempt [] store) (status : Status) :
    Settling exempt [] (store.add ⟨none, status⟩) := by
  have hadd := h.add ⟨none, status⟩ (by simp)
  refine ⟨hadd.older, fun id source derivation ho hfree => ?_⟩
  rcases hadd.follows id source derivation ho hfree with ⟨hmem, -⟩ | heq
  · rw [List.mem_singleton] at hmem
    subst hmem
    rw [origin?_add, if_pos rfl] at ho
    exact absurd ho (by simp)
  · exact Or.inr heq

/-- Ending an open future lets all others follow, except that one itself if it
is derived. -/
theorem Settling.finish {exempt exempt' : Nat → Prop} {store : Store} {id : Nat}
    {status : Status} (h : Settling exempt [] store)
    (hopen : store.isOpen id = true) (hshallow : store.Shallow levelLimit id)
    (hstatus : status.open = false)
    (hroot : store.origin? id = none ∨ exempt' id)
    (hexempt : ∀ other, exempt other → exempt' other) :
    Settling exempt' [] (store.finish id status).1 := by
  have hmark :
      Settling exempt' (store.dependants id ++ []) (store.mark id status) := by
    refine h.mark hopen (fun source derivation ho hfree => ?_) hexempt (by simp)
    rcases hroot with hroot | hset
    · rw [hroot] at ho; exact absurd ho (by simp)
    · exact absurd hset hfree
  rw [List.append_nil, ← map_id_tasks store stackRoom] at hmark
  exact hmark.settle (hshallow.fits hopen hstatus)

/-- A future derived from another follows it at once. -/
theorem Settling.derive {exempt : Nat → Prop} {store : Store}
    (h : Settling exempt [] store) {source : Nat} (hlt : source < store.next)
    (derivation : Derivation) :
    Settling exempt [] (store.derive source derivation).2.1 := by
  have hadd : Settling exempt
      ([Task.mk stackRoom store.next].map Task.id)
      (store.add ⟨some (source, derivation), .waiting⟩) := by
    refine h.add _ ?_
    rintro _ _ ⟨rfl, rfl⟩
    exact ⟨hlt, rfl⟩
  exact hadd.settle (fits_newest hadd.older)

/-- After every run that fits, all derived futures that the run did not set have
followed their sources. -/
theorem settling_after {ops : List Op} (hroom : Roomy ops) :
    Settling (fun id => ∃ outcome, SetBy ops id outcome) [] (after ops) := by
  induction ops using List.reverseRecOn with
  | nil => exact settling_empty _
  | append_singleton ops op ih =>
      obtain ⟨hroom, hop⟩ := roomy_concat.1 hroom
      have ih := ih hroom
      rw [after_concat]
      have hkeep : ∀ op id, (∃ outcome, SetBy ops id outcome) →
          ∃ outcome, SetBy (ops ++ [op]) id outcome :=
        fun op id ⟨outcome, hset⟩ => ⟨outcome, setBy_concat.2 (Or.inl hset)⟩
      refine step_cases (motive := fun op result => (after ops).RoomFor op →
        Settling (fun id => ∃ outcome, SetBy (ops ++ [op]) id outcome) []
          result.1) ?_ ?_ ?_ ?_ ?_ op hop
      · intro op status _ _
        exact (ih.addRoot status).weaken (hkeep op)
      · intro id outcome hopen hshallow
        exact ih.finish hopen hshallow rfl
          (Or.inr ⟨outcome, setBy_concat.2 (Or.inr ⟨rfl, hopen⟩)⟩) (hkeep _)
      · intro id hopen hroot hshallow
        exact ih.finish hopen (hshallow hroot) rfl (Or.inl hroot) (hkeep _)
      · intro source derivation hlt _
        exact (ih.derive hlt derivation).weaken (hkeep _)
      · intro op _ _
        exact ih.weaken (hkeep op)

/-! ## Calls of recoveries -/

/-- The source of the future, or the conversion of its answer, ended with a
failure that work may recover from. -/
def Recoverable (store : Store) (id : Nat) : Prop :=
  ∃ source derivation outcome failure,
    store.origin? id = some (source, derivation) ∧
    store.outcome? source = some outcome ∧
      derivation.converted outcome = .error failure ∧
    failure.kind.recoverable = true

theorem Extends.recoverable {earlier later : Store} (h : earlier.Extends later)
    {id : Nat} (hr : earlier.Recoverable id) : later.Recoverable id := by
  obtain ⟨source, derivation, outcome, failure, ho, hs, hc, hk⟩ := hr
  exact ⟨source, derivation, outcome, failure,
    (h.origin? (lt_next_of_origin? ho)).trans ho, h.outcome? hs, hc, hk⟩

theorem recoverable_of_due {store : Store} {id called : Nat} {outcome : Outcome}
    {events : List Event} (hdue : store.due? id = some (outcome, events))
    (h : Event.recovered called ∈ events) :
    store.Recoverable called := by
  obtain ⟨source, derivation, end', ho, hs, hr⟩ := due?_eq_some_iff.1 hdue
  have hmem : Event.recovered called ∈ (derivation.run id end').2 := by
    rw [hr]; exact h
  obtain ⟨rfl, failure, hc, hk⟩ := Derivation.recovered_mem_run hmem
  exact ⟨source, derivation, end', failure, ho, hs, hc, hk⟩

theorem recoverable_of_mem_settle {work : List Task} {store : Store}
    {called : Nat} (h : Event.recovered called ∈ (settle work store).2) :
    (settle work store).1.Recoverable called := by
  induction work, store using settle_induction with
  | nil store => simp at h
  | idle task rest store hdue ih =>
      rw [settle_idle rest hdue] at h ⊢
      exact ih h
  | due task rest store outcome events hdue hopen ih =>
      rw [settle_due rest hdue hopen] at h ⊢
      rcases List.mem_append.1 h with h | h
      · exact ((extends_mark _ hopen).trans (settle_extends _ _)).recoverable
          (recoverable_of_due hdue h)
      · exact ih h
  | late task rest store outcome events hdue hclosed ih =>
      rw [settle_late rest hdue hclosed] at h ⊢
      rcases List.mem_append.1 h with h | h
      · exact (settle_extends _ _).recoverable (recoverable_of_due hdue h)
      · exact ih h

/-- In no run is a recovery called after a success, or after a fatal failure. -/
theorem recoverable_of_mem_trace {ops : List Op} {called : Nat}
    (h : Event.recovered called ∈ trace ops) :
    (after ops).Recoverable called := by
  induction ops using List.reverseRecOn with
  | nil => simp at h
  | append_singleton ops op ih =>
      rw [after_concat]
      rw [trace_concat] at h
      rcases List.mem_append.1 h with h | h
      · exact (step_extends _ op).recoverable (ih h)
      · revert h
        refine step_cases (motive := fun _ result =>
          Event.recovered called ∈ result.2 →
            result.1.Recoverable called) ?_ ?_ ?_ ?_ ?_ op
        · intro _ _ _ h; simp at h
        · intro _ _ _ h; exact recoverable_of_mem_settle h
        · intro _ _ _ h; exact recoverable_of_mem_settle h
        · intro _ _ _ h; exact recoverable_of_mem_settle h
        · intro _ _ h; simp at h

/-! ## The outcomes of derived futures -/

/-- **Derived futures follow their sources.**  After every run:
a derived future that has ended has the reference outcome of its source, unless
the run set it;
one that was set keeps what it was given;
its recovery has been called only if the source or the conversion failed in a
way that work may recover from.
If there was room on the stack for all that the run set off, then no derived
future hangs: it has ended exactly if its source has, or if the run set it, and
unless it was set it has the reference outcome.  So it makes no difference when
it was derived: two futures that were derived in one way from sources with one
outcome, in whatever runs, end alike. -/
theorem derived_outcome (ops : List Op) (id source : Nat)
    (derivation : Derivation)
    (h : (after ops).origin? id = some (source, derivation)) :
    (∀ outcome, (after ops).outcome? id = some outcome →
        (¬ ∃ given, SetBy ops id given) →
        ((after ops).outcome? source).map derivation.reference = some outcome) ∧
      (∀ outcome, SetBy ops id outcome →
        (after ops).outcome? id = some outcome) ∧
      (Event.recovered id ∈ trace ops →
        ∃ outcome failure, (after ops).outcome? source = some outcome ∧
          derivation.converted outcome = .error failure ∧
          failure.kind.recoverable = true) ∧
      (Roomy ops →
        (((after ops).outcome? id).isSome ↔
          ((after ops).outcome? source).isSome ∨ ∃ outcome,
            SetBy ops id outcome) ∧
        ((¬ ∃ outcome, SetBy ops id outcome) →
          (after ops).outcome? id =
            ((after ops).outcome? source).map derivation.reference) ∧
        ∀ ops' id' source', Roomy ops' →
          (after ops').origin? id' = some (source', derivation) →
          (¬ ∃ outcome, SetBy ops id outcome) →
          (¬ ∃ outcome, SetBy ops' id' outcome) →
          (after ops').outcome? source' = (after ops).outcome? source →
          (after ops').outcome? id' = (after ops).outcome? id) := by
  refine ⟨fun outcome hended hfree => ?_, fun outcome hset => hset.outcome?,
    fun hcalled => ?_, fun hroom => ⟨?_, (settling_after hroom).followed h, ?_⟩⟩
  · exact truthful_after ops id source derivation outcome hfree h hended
  · obtain ⟨source', derivation', outcome, failure, ho, hs, hc, hk⟩ :=
      recoverable_of_mem_trace hcalled
    obtain ⟨rfl, rfl⟩ : source = source' ∧ derivation = derivation' := by
      simpa [h] using ho
    exact ⟨outcome, failure, hs, hc, hk⟩
  · by_cases hset : ∃ outcome, SetBy ops id outcome
    · obtain ⟨outcome, hset⟩ := hset
      rw [hset.outcome?]
      exact ⟨fun _ => Or.inr ⟨outcome, hset⟩, fun _ => rfl⟩
    · rw [(settling_after hroom).followed h hset, Option.isSome_map]
      exact ⟨Or.inl, fun h => h.resolve_right hset⟩
  · intro ops' id' source' hroom' h' hfree hfree' hsame
    rw [(settling_after hroom).followed h hfree,
      (settling_after hroom').followed h' hfree', hsame]

/-- A conversion that fails on every answer, and a recovery that answers
instead. -/
def stubborn : Derivation :=
  .transform (some fun _ => .error (Failure.missingKey "id"))
    (some fun _ => .ok (.value (.text "fallback")))

/-- A future derived while its source was open, from a source that succeeds with
an answer that does not convert. -/
theorem derived_outcome_of_failed_conversion :
    (after [.create, .derive 0 stubborn, .set 0 (.ok (.value .null))]).origin? 1 =
        some (0, stubborn) ∧
      Roomy [.create, .derive 0 stubborn, .set 0 (.ok (.value .null))] ∧
      (after [.create, .derive 0 stubborn,
        .set 0 (.ok (.value .null))]).outcome? 1 =
        some (.ok (.value (.text "fallback"))) := by
  have hroom : Roomy [.create, .derive 0 stubborn,
      .set 0 (.ok (.value .null))] :=
    roomy_of_few (by decide)
  have horigin :
      (after [.create, .derive 0 stubborn, .set 0 (.ok (.value .null))]).origin? 1 =
        some (0, stubborn) :=
    ((toppled_reach 1 stubborn (.ok (.value .null))).1 0 Nat.zero_lt_one).1
  have hfree : ¬ ∃ outcome,
      SetBy [.create, .derive 0 stubborn, .set 0 (.ok (.value .null))] 1
        outcome :=
    fun ⟨_, hset⟩ => by simpa using hset.mem
  have hsource :
      SetBy [.create, .derive 0 stubborn, .set 0 (.ok (.value .null))] 0
      (.ok (.value .null)) := setBy_toppled 1 stubborn (.ok (.value .null))
  obtain ⟨-, -, -, hfollows⟩ := derived_outcome _ 1 0 stubborn horigin
  refine ⟨horigin, hroom, ?_⟩
  rw [(hfollows hroom).2.1 hfree, hsource.outcome?]
  rfl

/-- A derivation that passes every outcome on. -/
def unchanged : Derivation := .transform none none

/-- Of a chain of 333 futures on an open one, the last hangs when that one is
set, though the future before it has ended. -/
theorem last_of_tower_hangs :
    ¬ ∀ (ops : List Op) (id source : Nat) (derivation : Derivation),
      (after ops).origin? id = some (source, derivation) →
      (((after ops).outcome? id).isSome ↔
        ((after ops).outcome? source).isSome ∨ ∃ outcome,
          SetBy ops id outcome) := by
  intro hfollows
  obtain ⟨hreach, -⟩ := toppled_reach 333 unchanged (.ok (.value .null))
  obtain ⟨horigin, hopen⟩ := hreach 332 (by decide)
  obtain ⟨hbefore, hclosed⟩ := hreach 331 (by decide)
  have hended := ended_of_closed (lt_next_of_origin? hbefore) hclosed
  have hsome := (hfollows _ 333 332 unchanged horigin).2 (Or.inl hended)
  rw [(isOpen_iff_outcome?.1 hopen).2] at hsome
  exact absurd hsome (by simp)

end Store
end HostedModules
