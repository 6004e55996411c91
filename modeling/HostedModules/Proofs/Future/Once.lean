/-
HostedModules.Proofs.Future.Once — no hook is called twice.

A failure for want of room on the stack keeps futures from running, but lets
none of them run twice.  Which hooks a future calls is decided as soon as its
source has ended, and it calls them no more than once from then on, whether its
turn comes or not.

* `Ready.sublist` — what is passed over does no harm to what is left
* `count_settle_le`, `count_step_le` — what one list of work, and one operation,
  add to the calls of a hook
* `count_trace_le` — in every run, a hook is called no more often than its
  future may call it
-/
import HostedModules.Proofs.Future.Preorder

namespace HostedModules
namespace Store

open Future

/-- What waits for an open future is not due. -/
theorem due?_of_mem_dependants {store : Store} {source id : Nat}
    (hmem : id ∈ store.dependants source) (hopen : store.isOpen source = true) :
    store.due? id = none := by
  obtain ⟨derivation, horigin⟩ := mem_dependants.1 hmem
  rw [due?_eq, horigin, Option.bind_some, (isOpen_iff_outcome?.1 hopen).2,
    Option.map_none]

theorem calls_of_not_due {store : Store} {id : Nat} (h : store.due? id = none) :
    store.calls id = [] := by
  rw [calls_eq, h]
  rfl

/-- A future that is due calls the same hooks ever after. -/
theorem Extends.calls {earlier later : Store} (h : earlier.Extends later)
    {id : Nat} (hdue : (earlier.due? id).isSome) :
    later.calls id = earlier.calls id := by
  obtain ⟨⟨outcome, events⟩, hdue⟩ := Option.isSome_iff_exists.1 hdue
  rw [calls_of_due hdue, calls_of_due (h.due? hdue)]

/-- What a future may call it may call ever after. -/
theorem count_calls_le (id : Nat) (event : Event) {earlier later : Store}
    (h : earlier.Extends later) :
    (earlier.calls id).count event ≤ (later.calls id).count event := by
  cases hdue : earlier.due? id with
  | none => rw [calls_of_not_due hdue]; exact Nat.zero_le _
  | some result => exact Nat.le_of_eq (by rw [h.calls (by rw [hdue]; rfl)])

/-! ## What is passed over -/

theorem Ready.sublist {store : Store} {work less : List Nat}
    (h : store.Ready work) (hless : less.Sublist work) : store.Ready less :=
  ⟨h.older, h.nodup.sublist hless, fun id hmem => h.due id (hless.mem hmem)⟩

theorem unwind_sublist (rest : List Task) : (unwind rest).Sublist rest :=
  List.dropWhile_sublist _

/-- What is left to run after a future is at most its dependants and the
rest. -/
theorem upcoming_sublist (store : Store) (task : Task) (rest : List Task) :
    ((store.upcoming task rest).map Task.id).Sublist
      (store.dependants task.id ++ rest.map Task.id) := by
  obtain ⟨room, id⟩ := task
  cases room with
  | zero =>
      exact ((unwind_sublist rest).map Task.id).trans
        (List.sublist_append_right _ _)
  | succ room =>
      rw [show store.upcoming ⟨room + 1, id⟩ rest = store.tasks room id ++ rest
        from rfl, List.map_append, map_id_tasks]

section Hook

variable {id : Nat} {event : Event}
  (hook : event = .converted id ∨ event = .recovered id)

include hook

/-- A hook is called by its own future only. -/
theorem count_calls_other (store : Store) {other : Nat} (hne : other ≠ id) :
    (store.calls other).count event = 0 := by
  refine List.count_eq_zero.2 fun hmem => ?_
  have hown := mem_calls hmem
  rcases hook with rfl | rfl <;> simp [hne.symm] at hown

/-- Running a list of work calls the hooks that the futures in it may call, and
those of the futures that become due by it, and none of them twice. -/
theorem count_settle_le {work : List Task} {store : Store}
    (h : store.Ready (work.map Task.id)) :
    (settle work store).2.count event +
        (if id ∈ work.map Task.id then 0 else (store.calls id).count event) ≤
      ((settle work store).1.calls id).count event := by
  induction work, store using settle_induction with
  | nil store => simp
  | idle task rest store hdue ih => exact absurd hdue h.due?_ne_none
  | due task rest store outcome events hdue hopen ih =>
      have hcalls : events = store.calls task.id := (calls_of_due hdue).symm
      have hextends := extends_mark (.finished outcome) hopen
      have hleft := ih ((h.tail.mark hopen _ rfl).sublist
        (upcoming_sublist store task rest))
      simp only [settle_due rest hdue hopen, List.count_append, List.map_cons,
        hcalls]
      by_cases hid : id = task.id
      · -- The turn of this future, which does not come again.
        subst hid
        have hnot : task.id ∉ (store.upcoming task rest).map Task.id := by
          intro hmem
          rcases List.mem_append.1
            ((upcoming_sublist _ _ _).mem hmem) with hmem | hmem
          · exact Nat.lt_irrefl _ (h.older.lt_of_mem_dependants hmem)
          · exact (List.nodup_cons.1 h.nodup).1 hmem
        rw [if_neg hnot, hextends.calls (by rw [hdue]; rfl)] at hleft
        rw [if_pos List.mem_cons_self]
        omega
      · rw [count_calls_other hook store (Ne.symm hid)]
        have hmono := count_calls_le id event hextends
        by_cases hrest : id ∈ rest.map Task.id
        · rw [if_pos (List.mem_cons_of_mem _ hrest)]
          omega
        · rw [if_neg (by simp [hid, hrest])]
          split at hleft
          · next hmem =>
              have hnew := (List.mem_append.1
                ((upcoming_sublist _ _ _).mem hmem)).resolve_right hrest
              rw [calls_of_not_due (due?_of_mem_dependants hnew hopen),
                List.count_nil]
              omega
          · omega
  | late task rest store outcome events hdue hclosed ih =>
      have hcalls : events = store.calls task.id := (calls_of_due hdue).symm
      have hsub := (unwind_sublist rest).map Task.id
      have hleft := ih (h.tail.sublist hsub)
      simp only [settle_late rest hdue hclosed, List.count_append,
        List.map_cons, hcalls]
      by_cases hid : id = task.id
      · subst hid
        have hnot : task.id ∉ (unwind rest).map Task.id := fun hmem =>
          (List.nodup_cons.1 h.nodup).1 (hsub.mem hmem)
        rw [if_neg hnot] at hleft
        rw [if_pos List.mem_cons_self]
        omega
      · rw [count_calls_other hook store (Ne.symm hid)]
        by_cases hrest : id ∈ rest.map Task.id
        · rw [if_pos (List.mem_cons_of_mem _ hrest)]
          omega
        · rw [if_neg (by simp [hid, hrest])]
          rw [if_neg fun hmem => hrest (hsub.mem hmem)] at hleft
          omega

/-- The calls of a hook in an operation, and those that its future might have
made before, are no more than it may make afterwards. -/
theorem count_step_le {store : Store} (hfirst : store.SourcesFirst) (op : Op) :
    (store.step op).2.count event + (store.calls id).count event ≤
      ((store.step op).1.calls id).count event := by
  have hfinish : ∀ {other : Nat} {status : Status}, store.isOpen other = true →
      status.open = false →
      (store.finish other status).2.count event + (store.calls id).count event ≤
        ((store.finish other status).1.calls id).count event := by
    intro other status hopen hended
    have hleft := count_settle_le hook (ready_finish hfirst hopen hended)
    have hmono := count_calls_le id event
      (extends_mark status hopen)
    rw [finish]
    split at hleft
    · next hmem =>
        rw [map_id_tasks] at hmem
        rw [calls_of_not_due (due?_of_mem_dependants hmem hopen),
          List.count_nil]
        exact hleft
    · omega
  refine step_cases (motive := fun _ result =>
    result.2.count event + (store.calls id).count event ≤
      (result.1.calls id).count event) ?_ ?_ ?_ ?_ ?_ op
  · intro _ status _
    rw [List.count_nil, Nat.zero_add]
    exact count_calls_le _ _ (extends_add store _)
  · intro other outcome hopen
    exact hfinish hopen rfl
  · intro other hopen _
    exact hfinish hopen rfl
  · intro source derivation hlt
    have hmono := count_calls_le id event
      (extends_add store ⟨some (source, derivation), .waiting⟩)
    cases hs : store.outcome? source with
    | none =>
        rw [settle_add_waiting hlt hs, List.count_nil, Nat.zero_add]
        exact hmono
    | some outcome =>
        have hleft := count_settle_le hook
          (ready_derive derivation hfirst hlt (by rw [hs]; rfl))
        split at hleft
        · next hmem =>
            obtain rfl := List.mem_singleton.1 hmem
            have hnew := due?_of_next_le (Nat.le_refl store.next)
            rw [calls_of_not_due hnew, List.count_nil]
            exact hleft
        · omega
  · intro _ _
    simp

/-- **No hook is called twice.**  In every run, a hook is called no more often
than its future may call it, once its source has ended. -/
theorem count_trace_le (ops : List Op) :
    (trace ops).count event ≤ ((after ops).calls id).count event := by
  induction ops using List.reverseRecOn with
  | nil => exact Nat.zero_le _
  | append_singleton ops op ih =>
      have hstep := count_step_le hook (sourcesFirst_after ops) op
      rw [trace_concat, after_concat, List.count_append]
      omega

end Hook

end Store
end HostedModules
