/-
HostedModules.Proofs.Future.Turns — which derived futures run in an operation,
and in which order, over a whole run.

A derived future has its turn once: in the operation by which its source ends,
or in the one that derives it if the source has ended by then.  Whose turn it
is, and in which order, is read off the store before the operation, without any
outcome and without any hook.  What is left to the outcomes is which hooks a
future calls in its turn.

* `Store.turns`, `Store.order` — the futures that have their turn in an
  operation, and in a run, in their order
* `turns_cases` — all that an operation can do, as far as turns go
* `trace_eq` — all that happens in a run happens in the turns
* `Store.SameShape` — two stores that differ in outcomes and hooks only
* `hooks_in_preorder` — in every run every derived future has one turn, at its
  time and at its place
-/
import Mathlib.Algebra.BigOperators.Group.List.Basic
import Mathlib.Data.List.Infix
import HostedModules.Proofs.Future.Ended
import HostedModules.Proofs.Future.Once

namespace HostedModules
namespace Store

open Future

/-! ## One operation -/

/-- The derived futures that have their turn in an operation, in their order. -/
def turns (store : Store) : Op → List Nat
  | .create => []
  | .submit _ => []
  | .set id _ => store.followers id
  | .cancel id => if (store.origin? id).isNone then store.followers id else []
  | .derive source _ =>
      if (store.outcome? source).isSome then [store.next] else []

/-- As far as turns go, an operation changes nothing, adds a future that is not
due, ends an open future, or adds a future that is due at once. -/
theorem turns_cases {store : Store} (op : Op)
    {motive : List Nat → Store × List Event → Prop}
    (idle : motive [] (store, []))
    (add : ∀ cell, (store.add cell).due? store.next = none →
      motive [] (store.add cell, []))
    (finish : ∀ id status, store.isOpen id = true → status.open = false →
      (store.RoomFor op → store.Shallow levelLimit id) →
      motive (store.followers id) (store.finish id status))
    (derive : ∀ source derivation, source < store.next →
      (store.outcome? source).isSome →
      motive [store.next] (settle [⟨stackRoom, store.next⟩]
        (store.add ⟨some (source, derivation), .waiting⟩))) :
    motive (store.turns op) (store.step op) := by
  cases op with
  | create => exact add ⟨none, .waiting⟩ (due?_add_root store .waiting)
  | submit outcome =>
      exact add ⟨none, .finished outcome⟩
        (due?_add_root store (.finished outcome))
  | set id outcome =>
      cases hopen : store.isOpen id with
      | true =>
          simpa [turns, step, Store.set, hopen] using
            finish id (.finished outcome) hopen rfl fun h => h
      | false =>
          simpa [turns, step, Store.set, hopen, followers_of_ended hopen] using
            idle
  | cancel id =>
      rcases store.cancel_cases id with ⟨hopen, hroot, heq⟩ | ⟨hclosed, answer, heq⟩
      · simpa [turns, step, heq, hroot] using
          finish id .cancelled hopen rfl fun h => h hroot
      · have hnone : store.turns (.cancel id) = [] := by
          cases hroot : store.origin? id with
          | none => simp [turns, hroot, followers_of_ended (hclosed hroot)]
          | some origin => simp [turns, hroot]
        rw [hnone]
        simpa [step, heq] using idle
  | derive source derivation =>
      by_cases hlt : source < store.next
      · cases hs : store.outcome? source with
        | some outcome =>
            simpa [turns, step, hlt, hs, Store.derive] using
              derive source derivation hlt (by simp [hs])
        | none =>
            have hadd := add ⟨some (source, derivation), .waiting⟩
              (by rw [due?_add_self derivation hlt, hs]; rfl)
            simpa [turns, step, hlt, hs, Store.derive,
              settle_add_waiting hlt hs] using hadd
      · have hs : store.outcome? source = none := by
          rw [outcome?_eq, cell?_eq_none_iff.2 (Nat.not_lt.1 hlt)]
          rfl
        simpa [turns, step, hlt, hs] using idle

/-- What is derived from a future is attached behind all that was derived from
it before. -/
theorem dependants_prefix_step (store : Store) (op : Op) (id : Nat) :
    store.dependants id <+: (store.step op).1.dependants id := by
  refine turns_cases op (motive := fun _ result =>
    store.dependants id <+: result.1.dependants id) ?_ ?_ ?_ ?_
  · exact List.prefix_rfl
  · intro cell _
    rw [dependants_add]
    exact List.prefix_append _ _
  · intro other status _ _ _
    rw [finish, dependants_settle, dependants_mark]
  · intro source derivation _ _
    rw [dependants_settle, dependants_add]
    exact List.prefix_append _ _

section Step

variable {store : Store} (hfirst : store.SourcesFirst) (op : Op)

include hfirst

/-- A future that has its turn was not due before. -/
theorem due?_of_mem_turns {id : Nat} :
    id ∈ store.turns op → store.due? id = none := by
  refine turns_cases op (motive := fun turns _ =>
    id ∈ turns → store.due? id = none) ?_ ?_ ?_ ?_
  · simp
  · simp
  · intro other status _ _ _ hmem
    exact due?_of_mem_followers hfirst hmem
  · intro source derivation _ _ hmem
    exact due?_of_next_le (Nat.le_of_eq (List.mem_singleton.1 hmem).symm)

theorem nodup_turns : (store.turns op).Nodup := by
  refine turns_cases op (motive := fun turns _ => turns.Nodup) ?_ ?_ ?_ ?_
  · exact List.nodup_nil
  · intro _ _
    exact List.nodup_nil
  · intro id _ _ _ _
    exact (List.nodup_cons.1 (nodup_preorder hfirst id)).2
  · intro _ _ _ _
    exact List.nodup_singleton _

variable (hroom : store.RoomFor op)

include hroom

/-- An operation calls the hooks of the futures that have their turn, one future
after the other. -/
theorem step_calls :
    (store.step op).2 = (store.turns op).flatMap (store.step op).1.calls := by
  refine turns_cases op (motive := fun turns result =>
    result.2 = turns.flatMap result.1.calls) ?_ ?_ ?_ ?_
  · rfl
  · intro cell _
    rfl
  · intro id status hopen hended hshallow
    exact events_finish hfirst hopen (hshallow hroom) hended
  · intro source derivation hlt hs
    exact events_derive derivation hfirst hlt hs

/-- The futures that have their turn are those that become due. -/
theorem due_step (id : Nat) :
    ((store.step op).1.due? id).isSome ↔
      (store.due? id).isSome ∨ id ∈ store.turns op := by
  refine turns_cases op (motive := fun turns result =>
    (result.1.due? id).isSome ↔ (store.due? id).isSome ∨ id ∈ turns) ?_ ?_ ?_ ?_
  · simp
  · intro cell hcell
    by_cases hid : id = store.next
    · simp [hid, hcell, due?_of_next_le]
    · simp [due?_add_of_ne hfirst cell hid]
  · intro other status hopen hended hshallow
    exact due_finish hfirst hopen (hshallow hroom) hended id
  · intro source derivation hlt hs
    rw [due_derive derivation hfirst hlt hs, List.mem_singleton]

/-- A derived future has its turn in the operation by which its source ends, and
in the one by which it is derived if its source has ended by then. -/
theorem mem_turns_iff {id : Nat} :
    id ∈ store.turns op ↔ ∃ source derivation,
      (store.step op).1.origin? id = some (source, derivation) ∧
        ((store.step op).1.outcome? source).isSome ∧
        (store.outcome? source = none ∨ store.next ≤ id) := by
  constructor
  · intro hmem
    obtain ⟨source, derivation, ho, hs⟩ :=
      due?_isSome_iff.1 ((due_step hfirst op hroom id).2 (.inr hmem))
    refine ⟨source, derivation, ho, hs, ?_⟩
    by_cases hlt : id < store.next
    · rw [(step_extends store op).origin? hlt] at ho
      have hdue := due?_of_mem_turns hfirst op hmem
      rw [due?_eq, ho, Option.bind_some, Option.map_eq_none_iff] at hdue
      exact .inl hdue
    · exact .inr (Nat.not_lt.1 hlt)
  · rintro ⟨source, derivation, ho, hs, hnew⟩
    have hdue := (due_step hfirst op hroom id).1
      (due?_isSome_iff.2 ⟨source, derivation, ho, hs⟩)
    refine hdue.resolve_left fun hdue => ?_
    obtain ⟨source', derivation', ho', hs'⟩ := due?_isSome_iff.1 hdue
    have hlt := lt_next_of_origin? ho'
    rw [(step_extends store op).origin? hlt, ho'] at ho
    obtain ⟨rfl, -⟩ := Prod.mk.inj (Option.some.inj ho)
    rw [hnew.resolve_right (Nat.not_le.2 hlt)] at hs'
    exact absurd hs' (by simp)

/-- When a future ends by an operation, all that follows it has its turn in that
operation, and without anything between. -/
theorem followers_infix_turns {id : Nat} (hopen : store.outcome? id = none)
    (hended : ((store.step op).1.outcome? id).isSome) :
    store.followers id <:+: store.turns op := by
  have hnew : store.followers store.next = [] :=
    followers_of_ended (by simp [isOpen, cell?_eq_none_iff.2])
  revert hended
  refine turns_cases op (motive := fun turns result =>
    (result.1.outcome? id).isSome → store.followers id <:+: turns) ?_ ?_ ?_ ?_
  · intro hended
    simp [hopen] at hended
  · intro cell _ hended
    by_cases hid : id = store.next
    · rw [hid, hnew]
    · simp [outcome?_add_of_ne cell hid, hopen] at hended
  · intro other status hother hstatus hshallow hended
    have hends := (ended_finish hfirst hother (hshallow hroom) hstatus id).1 hended
    exact followers_infix hfirst (hends.resolve_left (by simp [hopen]))
  · intro source derivation hlt hs hended
    have hends := (ended_derive derivation hfirst hlt hs id).1 hended
    rw [hends.resolve_left (by simp [hopen]), hnew]
    exact List.nil_infix

end Step

/-! ## Runs -/

/-- The turns of some operations, from this store on. -/
def turnsFrom (store : Store) : List Op → List Nat
  | [] => []
  | op :: rest => store.turns op ++ turnsFrom (store.step op).1 rest

/-- The turns of a run from the empty store, in their order. -/
def order (ops : List Op) : List Nat := turnsFrom .empty ops

theorem turnsFrom_concat (store : Store) (ops : List Op) (op : Op) :
    turnsFrom store (ops ++ [op]) =
      turnsFrom store ops ++
        (ops.foldl (fun store op => (store.step op).1) store).turns op := by
  induction ops generalizing store with
  | nil => simp [turnsFrom]
  | cons first rest ih => simp [turnsFrom, ih]

theorem after_eq_foldl (ops : List Op) :
    after ops = ops.foldl (fun store op => (store.step op).1) .empty := by
  induction ops using List.reverseRecOn with
  | nil => rfl
  | append_singleton ops op ih => rw [after_concat, ih, List.foldl_concat]

theorem order_concat (ops : List Op) (op : Op) :
    order (ops ++ [op]) = order ops ++ (after ops).turns op := by
  rw [order, turnsFrom_concat, ← after_eq_foldl]
  rfl

/-- The futures that have had their turn are those that are due. -/
theorem mem_order_iff {ops : List Op} (hroom : Roomy ops) {id : Nat} :
    id ∈ order ops ↔ ((after ops).due? id).isSome := by
  induction ops using List.reverseRecOn with
  | nil =>
      have hempty : Store.empty.next ≤ id := Nat.zero_le id
      simp [order, turnsFrom, due?_of_next_le hempty]
  | append_singleton ops op ih =>
      obtain ⟨hroom, hop⟩ := roomy_concat.1 hroom
      rw [order_concat, after_concat, due_step (sourcesFirst_after ops) op hop,
        List.mem_append, ih hroom]

/-- No future has two turns. -/
theorem nodup_order {ops : List Op} (hroom : Roomy ops) :
    (order ops).Nodup := by
  induction ops using List.reverseRecOn with
  | nil => exact List.nodup_nil
  | append_singleton ops op ih =>
      obtain ⟨hroom, -⟩ := roomy_concat.1 hroom
      rw [order_concat]
      refine (ih hroom).append (nodup_turns (sourcesFirst_after ops) op)
        fun id hmem hturn => ?_
      have hdue := (mem_order_iff hroom).1 hmem
      rw [due?_of_mem_turns (sourcesFirst_after ops) op hturn] at hdue
      exact absurd hdue (by simp)

/-- Deriving a future from an open one gives no future its turn. -/
theorem order_derive_waiting {ops : List Op} {source : Nat}
    (derivation : Derivation) (hopen : (after ops).isOpen source = true) :
    order (ops ++ [.derive source derivation]) = order ops ∧
      after (ops ++ [.derive source derivation]) =
        (after ops).add ⟨some (source, derivation), .waiting⟩ := by
  obtain ⟨hlt, hs⟩ := isOpen_iff_outcome?.1 hopen
  rw [order_concat, after_concat]
  simp [turns, step, hlt, hs, Store.derive, settle_add_waiting hlt hs]

section Roomy

variable {ops : List Op} (hroom : Roomy ops)

include hroom

/-- All that happens in a run is what happens in the turns. -/
theorem trace_eq : trace ops = (order ops).flatMap (after ops).calls := by
  induction ops using List.reverseRecOn with
  | nil => rfl
  | append_singleton ops op ih =>
      obtain ⟨hroom, hop⟩ := roomy_concat.1 hroom
      -- What was called in the earlier turns is not told otherwise by the later
      -- store.
      have hold : (order ops).flatMap (after ops).calls =
          (order ops).flatMap (after (ops ++ [op])).calls :=
        List.flatMap_congr fun id hmem =>
          ((after_extends ops [op]).calls ((mem_order_iff hroom).1 hmem)).symm
      rw [trace_concat, order_concat, List.flatMap_append, ih hroom, hold,
        step_calls (sourcesFirst_after ops) op hop, after_concat]

/-! ## How often a hook is called -/

/-- An event that no other future has a part in is counted in the turn of this
one. -/
theorem count_trace {id : Nat} {event : Event}
    (honly : ∀ other ≠ id, event ∉ (after ops).calls other) :
    (trace ops).count event = ((after ops).calls id).count event := by
  -- Of all the turns only that of this future can count, and there is one such
  -- turn or none.
  have hsum := List.sum_map_eq_nsmul_single id
    (f := List.count event ∘ (after ops).calls) (l := order ops)
    fun other hne _ => List.count_eq_zero.2 (honly other hne)
  rw [trace_eq hroom, List.count_flatMap, hsum, (nodup_order hroom).count]
  split
  · simp
  · next hnever =>
      rw [mem_order_iff hroom, Option.not_isSome_iff_eq_none] at hnever
      rw [zero_nsmul, calls_eq, hnever]
      rfl

/-- A hook is called once at most, and whether it is called is decided by the
outcome of the source alone. -/
theorem count_hook {id source : Nat} {derivation : Derivation} {event : Event}
    {called : Outcome → Bool}
    (ho : (after ops).origin? id = some (source, derivation))
    (hook : event = .converted id ∨ event = .recovered id)
    (hcount : ∀ outcome, (derivation.calls id outcome).count event =
      if called outcome then 1 else 0) :
    (trace ops).count event =
      if ((after ops).outcome? source).any called then 1 else 0 := by
  rw [count_trace hroom fun other hne hmem => ?_, calls, ho]
  · cases hs : (after ops).outcome? source with
    | none => simp [hs]
    | some outcome => simp [hs, hcount]
  · have hown := mem_calls hmem
    rcases hook with rfl | rfl <;> simp [hne.symm] at hown

end Roomy

/-- Whether there is room or not, a hook is called once at most, and only if the
outcome of the source calls for it. -/
theorem count_hook_le {ops : List Op} {id source : Nat}
    {derivation : Derivation} {event : Event} {called : Outcome → Bool}
    (ho : (after ops).origin? id = some (source, derivation))
    (hook : event = .converted id ∨ event = .recovered id)
    (hcount : ∀ outcome, (derivation.calls id outcome).count event =
      if called outcome then 1 else 0) :
    (trace ops).count event ≤
      if ((after ops).outcome? source).any called then 1 else 0 := by
  have hle := count_trace_le hook ops
  rw [calls, ho] at hle
  cases hs : (after ops).outcome? source with
  | none => simpa [hs] using hle
  | some outcome => simpa [hs, hcount] using hle

/-! ## Outcomes and hooks have no part in the order -/

/-- The two stores have the same futures, derived from the same sources, and the
same ones have ended.  Only outcomes and hooks may differ. -/
structure SameShape (a b : Store) : Prop where
  next : a.next = b.next
  source : ∀ id, (a.origin? id).map Prod.fst = (b.origin? id).map Prod.fst
  ended : ∀ id, (a.outcome? id).isSome = (b.outcome? id).isSome

/-- The operation without its outcome and without its hooks. -/
def Op.bare : Op → Op
  | .create => .create
  | .submit _ => .submit (.ok (.value .null))
  | .set id _ => .set id (.ok (.value .null))
  | .cancel id => .cancel id
  | .derive source _ => .derive source (.transform none none)

theorem SameShape.symm {a b : Store} (h : a.SameShape b) : b.SameShape a :=
  ⟨h.next.symm, fun id => (h.source id).symm, fun id => (h.ended id).symm⟩

section SameShape

variable {a b : Store} (h : a.SameShape b)

include h

theorem SameShape.isOpen (id : Nat) : a.isOpen id = b.isOpen id := by
  have hended := h.ended id
  rw [Bool.eq_iff_iff, isOpen_iff_outcome?, isOpen_iff_outcome?, h.next,
    ← Option.not_isSome_iff_eq_none, ← Option.not_isSome_iff_eq_none, hended]

theorem SameShape.root (id : Nat) :
    (a.origin? id).isNone = (b.origin? id).isNone := by
  rw [← Option.isNone_map (f := Prod.fst), h.source, Option.isNone_map]

theorem SameShape.dependants (id : Nat) : a.dependants id = b.dependants id :=
  dependants_congr h.next h.source id

/-- As many levels run behind a future. -/
theorem SameShape.shallow {levels id : Nat} (hshallow : a.Shallow levels id) :
    b.Shallow levels id :=
  hshallow.congr (fun other hopen => (h.isOpen other).trans hopen)
    fun other => (h.dependants other).symm

/-- There is room for an operation in both or in neither. -/
theorem SameShape.roomFor (op : Op) : a.RoomFor op ↔ b.RoomFor op.bare := by
  cases op with
  | create => exact Iff.rfl
  | submit outcome => exact Iff.rfl
  | set id outcome => exact ⟨h.shallow, h.symm.shallow⟩
  | cancel id =>
      have hroot : a.origin? id = none ↔ b.origin? id = none := by
        rw [← Option.isNone_iff_eq_none, h.root, Option.isNone_iff_eq_none]
      exact ⟨fun hroom hb => h.shallow (hroom (hroot.2 hb)),
        fun hroom ha => h.symm.shallow (hroom (hroot.1 ha))⟩
  | derive source derivation => exact Iff.rfl

theorem SameShape.add {cell cell' : Cell}
    (horigin : cell.origin.map Prod.fst = cell'.origin.map Prod.fst)
    (hended : cell.status.outcome?.isSome = cell'.status.outcome?.isSome) :
    (a.add cell).SameShape (b.add cell') := by
  refine ⟨by rw [next_add, next_add, h.next], fun id => ?_, fun id => ?_⟩
  · rw [origin?_add, origin?_add, h.next]
    split
    · exact horigin
    · exact h.source id
  · by_cases hid : id = a.next
    · rw [hid, outcome?_add_self, h.next, outcome?_add_self, hended]
    · rw [outcome?_add_of_ne _ hid, outcome?_add_of_ne _ (h.next ▸ hid), h.ended]

variable (hfirst : a.SourcesFirst)

include hfirst

theorem SameShape.preorder (id : Nat) : a.preorder id = b.preorder id :=
  (preorder_congr hfirst (fun other => (h.dependants other).symm) fun other _ =>
    (h.isOpen other).symm).symm

theorem SameShape.followers (id : Nat) : a.followers id = b.followers id :=
  (List.cons.inj (h.preorder hfirst id)).2

/-- The same futures have their turn, in the same order. -/
theorem SameShape.turns (op : Op) : a.turns op = b.turns op.bare := by
  cases op with
  | create => rfl
  | submit outcome => rfl
  | set id outcome => exact h.followers hfirst id
  | cancel id => simp only [Store.turns, Op.bare, h.root, h.followers hfirst]
  | derive source derivation =>
      simp only [Store.turns, Op.bare, h.ended, h.next]

variable (hfirst' : b.SourcesFirst)

include hfirst'

theorem SameShape.finish {id : Nat} (hopen : a.isOpen id = true)
    (hshallow : a.Shallow levelLimit id) {status status' : Status}
    (hstatus : status.open = false) (hstatus' : status'.open = false) :
    (a.finish id status).1.SameShape (b.finish id status').1 := by
  refine ⟨by simp [h.next], fun other => ?_, fun other => ?_⟩
  · rw [Store.finish, Store.finish, origin?_settle, origin?_settle,
      origin?_mark, origin?_mark, h.source]
  · rw [Bool.eq_iff_iff, ended_finish hfirst hopen hshallow hstatus,
      ended_finish hfirst' (h.isOpen id ▸ hopen) (h.shallow hshallow) hstatus',
      h.ended, h.preorder hfirst]

theorem SameShape.derive {source : Nat} (hlt : source < a.next)
    (derivation derivation' : Derivation) :
    (a.derive source derivation).2.1.SameShape
      (b.derive source derivation').2.1 := by
  have hlt' : source < b.next := h.next ▸ hlt
  have hadd : (a.add ⟨some (source, derivation), .waiting⟩).SameShape
      (b.add ⟨some (source, derivation'), .waiting⟩) := h.add rfl rfl
  have hended := h.ended source
  unfold Store.derive
  cases hs : a.outcome? source with
  | none =>
      rw [hs, Option.isSome_none, eq_comm, ← Bool.not_eq_true,
        Option.not_isSome_iff_eq_none] at hended
      rw [settle_add_waiting hlt hs, settle_add_waiting hlt' hended]
      exact hadd
  | some outcome =>
      rw [hs] at hended
      refine ⟨by simp [h.next], fun id => ?_, fun id => ?_⟩
      · rw [origin?_settle, origin?_settle, hadd.source]
      · rw [Bool.eq_iff_iff,
          ended_derive derivation hfirst hlt (by rw [hs]; rfl),
          ended_derive derivation' hfirst' hlt' hended.symm, h.ended, h.next]

/-- Every operation for which there is room keeps the shape. -/
theorem SameShape.step (op : Op) (hroom : a.RoomFor op) :
    (a.step op).1.SameShape (b.step op.bare).1 := by
  cases op with
  | create => exact h.add rfl rfl
  | submit outcome => exact h.add rfl rfl
  | set id outcome =>
      have hsame := h.isOpen id
      cases hopen : a.isOpen id with
      | true =>
          simpa [Store.step, Op.bare, Store.set, hopen, ← hsame] using
            h.finish hfirst hfirst' hopen hroom rfl rfl
      | false => simpa [Store.step, Op.bare, Store.set, hopen, ← hsame] using h
  | cancel id =>
      have hroot := h.root id
      have hsame := h.isOpen id
      simp only [Store.step, Op.bare]
      -- Both are cancelled or neither: it is the same futures that are open and
      -- derived from none.
      rcases a.cancel_cases id with ⟨hopen, ho, heq⟩ | ⟨hclosed, answer, heq⟩ <;>
        rcases b.cancel_cases id with ⟨hopen', ho', heq'⟩ | ⟨hclosed', answer', heq'⟩
      · rw [heq, heq']
        exact h.finish hfirst hfirst' hopen (hroom ho) rfl rfl
      · rw [ho, eq_comm, Option.isNone_none, Option.isNone_iff_eq_none] at hroot
        rw [hopen, hclosed' hroot] at hsame
        exact absurd hsame (by simp)
      · rw [ho', Option.isNone_none, Option.isNone_iff_eq_none] at hroot
        rw [hopen', hclosed hroot] at hsame
        exact absurd hsame (by simp)
      · rw [heq, heq']
        exact h
  | derive source derivation =>
      by_cases hlt : source < a.next
      · simpa [Store.step, Op.bare, hlt, ← h.next] using
          h.derive hfirst hfirst' hlt derivation (.transform none none)
      · simpa [Store.step, Op.bare, hlt, ← h.next] using h

end SameShape

theorem sameShape_after {ops : List Op} (hroom : Roomy ops) :
    (after ops).SameShape (after (ops.map Op.bare)) := by
  induction ops using List.reverseRecOn with
  | nil => exact ⟨rfl, fun _ => rfl, fun _ => rfl⟩
  | append_singleton ops op ih =>
      obtain ⟨hroom, hop⟩ := roomy_concat.1 hroom
      rw [List.map_append, List.map_singleton, after_concat, after_concat]
      exact (ih hroom).step (sourcesFirst_after ops)
        (sourcesFirst_after _) op hop

/-- Whether a run fits does not depend on outcomes and hooks. -/
theorem roomy_bare {ops : List Op} : Roomy (ops.map Op.bare) ↔ Roomy ops := by
  induction ops using List.reverseRecOn with
  | nil => exact Iff.rfl
  | append_singleton ops op ih =>
      rw [List.map_append, List.map_singleton, roomy_concat, roomy_concat, ih]
      exact and_congr_right fun hroom =>
        ((sameShape_after hroom).roomFor op).symm

/-- Without any hooks, and with the same answer for every outcome, the turns of
a run that fits would be the same. -/
theorem order_bare {ops : List Op} (hroom : Roomy ops) :
    order (ops.map Op.bare) = order ops := by
  induction ops using List.reverseRecOn with
  | nil => rfl
  | append_singleton ops op ih =>
      obtain ⟨hroom, -⟩ := roomy_concat.1 hroom
      rw [List.map_append, List.map_singleton, order_concat, order_concat,
        ih hroom, (sameShape_after hroom).turns (sourcesFirst_after ops)]

/-! ## Every future in its turn -/

/-- **Every derived future has one turn, at its time and at its place.**  In
every run of the operations, a future calls its conversion once at most, and
only if it has one and its source has succeeded, and its recovery once at most,
and only if it has one and the source or the conversion has failed but not
fatally.  A dependant is attached behind the earlier ones.

If there was room on the stack for all that the run set off:
all that happens is what the derived futures call in their turns;
no future has two turns, and those that have had theirs are the derived ones
whose source has ended;
a future calls its conversion, and its recovery, once whenever it may;
an operation for which there is room appends its turns to those of the run, and
calls what belongs to them;
these are the turns of the futures whose source ends by it, and of the one that
it derives if the source has ended;
what follows a future that ends by it stands together there: each dependant,
with all that follows it before the next one, while nothing follows a dependant
that had ended before;
and none of this order depends on an outcome or on a hook. -/
theorem hooks_in_preorder (ops : List Op) :
    (∀ id source derivation,
      (after ops).origin? id = some (source, derivation) →
        (trace ops).count (.converted id) ≤
            (if ((after ops).outcome? source).any derivation.converts then 1 else 0) ∧
          (trace ops).count (.recovered id) ≤
            (if ((after ops).outcome? source).any derivation.recovers then 1
              else 0)) ∧
      (∀ op id,
        (after ops).dependants id <+: ((after ops).step op).1.dependants id) ∧
      (∀ id, (after ops).followers id =
        if (after ops).isOpen id then
          ((after ops).dependants id).flatMap fun child =>
            child :: (after ops).followers child
        else []) ∧
      (Roomy ops →
        trace ops = (order ops).flatMap (after ops).calls ∧
        (order ops).Nodup ∧
        (∀ id, id ∈ order ops ↔ ∃ source derivation,
          (after ops).origin? id = some (source, derivation) ∧
            ((after ops).outcome? source).isSome) ∧
        (∀ id source derivation,
          (after ops).origin? id = some (source, derivation) →
            (trace ops).count (.converted id) =
                (if ((after ops).outcome? source).any derivation.converts
                  then 1 else 0) ∧
              (trace ops).count (.recovered id) =
                (if ((after ops).outcome? source).any derivation.recovers
                  then 1 else 0)) ∧
        (∀ op, (after ops).RoomFor op →
          order (ops ++ [op]) = order ops ++ (after ops).turns op ∧
          ((after ops).step op).2 =
            ((after ops).turns op).flatMap ((after ops).step op).1.calls ∧
          (∀ id, id ∈ (after ops).turns op ↔ ∃ source derivation,
            ((after ops).step op).1.origin? id = some (source, derivation) ∧
              (((after ops).step op).1.outcome? source).isSome ∧
              ((after ops).outcome? source = none ∨ (after ops).next ≤ id)) ∧
          ∀ id, (after ops).outcome? id = none →
            (((after ops).step op).1.outcome? id).isSome →
            (after ops).followers id <:+: (after ops).turns op) ∧
        ∀ ops', ops'.map Op.bare = ops.map Op.bare → order ops' = order ops) := by
  have hfirst := sourcesFirst_after ops
  refine ⟨?_, dependants_prefix_step (after ops), ?_, fun hroom =>
    ⟨trace_eq hroom, nodup_order hroom,
      fun id => (mem_order_iff hroom).trans due?_isSome_iff, ?_, ?_, ?_⟩⟩
  · intro id source derivation ho
    exact ⟨count_hook_le ho (.inl rfl)
      (Derivation.count_converted id derivation),
      count_hook_le ho (.inr rfl) (Derivation.count_recovered id derivation)⟩
  · intro id
    split
    · next hopen => exact followers_of_open hfirst hopen
    · next hclosed => exact followers_of_ended (Bool.eq_false_iff.2 hclosed)
  · intro id source derivation ho
    exact ⟨count_hook hroom ho (.inl rfl)
      (Derivation.count_converted id derivation),
      count_hook hroom ho (.inr rfl) (Derivation.count_recovered id derivation)⟩
  · intro op hop
    exact ⟨order_concat ops op, step_calls hfirst op hop,
      fun id => mem_turns_iff hfirst op hop,
      fun id => followers_infix_turns hfirst op hop⟩
  · intro ops' hbare
    have hroom' : Roomy ops' := by rwa [← roomy_bare, hbare, roomy_bare]
    rw [← order_bare hroom', hbare, order_bare hroom]

/-- Two futures are derived from one, and a third from the first of these. -/
def derivedThrice : List Op :=
  [.create, .derive 0 stubborn, .derive 1 stubborn, .derive 0 stubborn]

/-- The first of the derived futures is set before its source ends. -/
def setBetween : List Op := derivedThrice ++ [.set 1 direct]

/-- The source ends. -/
def setLast : Op := .set 0 (.ok (.value .null))

/-- The same futures, derived in other ways and with other outcomes. -/
def setBetweenOtherwise : List Op :=
  [.create, .derive 0 relabel, .derive 1 (.suppress "unchanged"),
    .derive 0 relabel,
    .set 1 (.error (Failure.unworded .overflow)),
      .set 0 (.error (Failure.unworded .overflow))]

/-- No future has its turn while all of them are open. -/
theorem derivedThrice_open : order derivedThrice = [] ∧ after derivedThrice =
    ⟨[⟨none, .waiting⟩, ⟨some (0, stubborn), .waiting⟩,
      ⟨some (1, stubborn), .waiting⟩,
      ⟨some (0, stubborn), .waiting⟩]⟩ := by
  have hroot : (after [.create]).isOpen 0 = true := rfl
  obtain ⟨horder, hstore⟩ := order_derive_waiting stubborn hroot
  have hfirst : (after ([.create] ++ [.derive 0 stubborn])).isOpen 1 = true := by
    rw [hstore]
    rfl
  obtain ⟨horder', hstore'⟩ := order_derive_waiting stubborn hfirst
  have hsecond :
      (after ([.create] ++ [.derive 0 stubborn] ++ [.derive 1 stubborn])).isOpen
      0 = true := by
    rw [hstore', hstore]
    rfl
  obtain ⟨horder'', hstore''⟩ := order_derive_waiting stubborn hsecond
  exact ⟨horder''.trans (horder'.trans horder),
    hstore''.trans (by rw [hstore', hstore]; rfl)⟩

/-- What is derived from the future that is set has its turn at once. -/
theorem setBetween_ended : order setBetween = [2] ∧ after setBetween =
    ⟨[⟨none, .waiting⟩, ⟨some (0, stubborn), .finished direct⟩,
      ⟨some (1, stubborn), .finished (.ok (.value (.text "fallback")))⟩,
        ⟨some (0, stubborn), .waiting⟩]⟩ := by
  obtain ⟨horder, hstore⟩ := derivedThrice_open
  rw [setBetween, order_concat, after_concat, horder, hstore]
  exact ⟨by cbv, by cbv⟩

/-- What was derived from the future that is set has its turn then and not
again.  The hooks of that future itself are still called when the source ends,
once, and before those of its sibling.  With other hooks and other outcomes the
order is the same. -/
theorem hooks_in_preorder_set_between :
    Roomy (setBetween ++ [setLast]) ∧ (after setBetween).outcome? 0 = none ∧
      (((after setBetween).step setLast).1.outcome? 0).isSome ∧
      [1, 3] <:+: (after setBetween).turns setLast ∧
      (after (setBetween ++ [setLast])).origin? 1 = some (0, stubborn) ∧
      (trace (setBetween ++ [setLast])).count (.converted 1) = 1 ∧
      setBetweenOtherwise.map Op.bare =
        (setBetween ++ [setLast]).map Op.bare ∧
      order (setBetween ++ [setLast]) = [2, 1, 3] ∧
      order setBetweenOtherwise = [2, 1, 3] := by
  obtain ⟨hbefore, hstore⟩ := setBetween_ended
  have hroom : Roomy (setBetween ++ [setLast]) := roomy_of_few (by decide)
  have hopen : (after setBetween).outcome? 0 = none := by rw [hstore]; rfl
  have hended : ((after setBetween).step setLast).1.outcome? 0 =
      some (.ok (.value .null)) := by
    rw [hstore]
    cbv
  have hfollowers : (after setBetween).followers 0 = [1, 3] := by
    rw [hstore]
    cbv
  have horigin :
      (after (setBetween ++ [setLast])).origin? 1 = some (0, stubborn) := by
    rw [(after_extends setBetween [setLast]).origin? (by rw [hstore]; decide),
      hstore]
    rfl
  have horder : order (setBetween ++ [setLast]) = [2, 1, 3] := by
    rw [order_concat, hbefore]
    exact congrArg ([2] ++ ·) hfollowers
  obtain ⟨-, -, -, hfits⟩ := hooks_in_preorder setBetween
  obtain ⟨-, -, -, -, hlast, -⟩ := hfits hroom.append
  obtain ⟨-, -, -, htogether⟩ := hlast setLast (roomy_concat.1 hroom).2
  obtain ⟨-, -, -, hfits'⟩ := hooks_in_preorder (setBetween ++ [setLast])
  obtain ⟨-, -, -, hcount, -, hbare⟩ := hfits' hroom
  have hended' : (((after setBetween).step setLast).1.outcome? 0).isSome =
      true := by
    rw [hended]
    rfl
  refine ⟨hroom, hopen, hended', hfollowers ▸ htogether 0 hopen hended',
    horigin, ?_, rfl, horder, ?_⟩
  · rw [(hcount 1 0 stubborn horigin).1, after_concat, hended]
    rfl
  · rw [hbare setBetweenOtherwise rfl, horder]

/-- A tower of conversions passes answers on. -/
theorem answered_of_toppled {levels i : Nat} {answer : Answer}
    {outcome : Outcome} (hi : i ≤ levels)
    (hended : (after (toppled levels relabel (.ok answer))).outcome? i =
      some outcome) : ∃ given, outcome = .ok given := by
  induction i generalizing outcome with
  | zero =>
      rw [(setBy_toppled levels relabel _).outcome?] at hended
      exact ⟨answer, (Option.some.inj hended).symm⟩
  | succ i ih =>
      have horigin := ((toppled_reach levels relabel (.ok answer)).1 i hi).1
      have hfree : ¬ ∃ given,
          SetBy (toppled levels relabel (.ok answer)) (i + 1) given :=
        fun ⟨_, hset⟩ => absurd hset.eq_zero (Nat.succ_ne_zero i)
      obtain ⟨before, hbefore, rfl⟩ := Option.map_eq_some_iff.1 <|
        truthful_after _ _ _ _ outcome hfree horigin hended
      obtain ⟨given, rfl⟩ := ih (Nat.le_of_succ_le hi) hbefore
      exact ⟨_, rfl⟩

/-- Of a chain of 333 futures on an open one, the last never calls its
conversion, though its source has ended with an answer. -/
theorem last_of_tower_unconverted :
    ¬ ∀ (ops : List Op) (id source : Nat) (derivation : Derivation),
      (after ops).origin? id = some (source, derivation) →
        (trace ops).count (.converted id) =
          if ((after ops).outcome? source).any derivation.converts then 1
            else 0 := by
  intro hcount
  obtain ⟨hreach, hcalled⟩ := toppled_reach 333 relabel (.ok (.value .null))
  obtain ⟨hbefore, hclosed⟩ := hreach 331 (by decide)
  obtain ⟨outcome, hended⟩ := Option.isSome_iff_exists.1 <|
    ended_of_closed (lt_next_of_origin? hbefore) hclosed
  obtain ⟨answer, rfl⟩ := answered_of_toppled (by decide) hended
  have hnever : (trace (toppled 333 relabel (.ok (.value .null)))).count
      (.converted 333) = 0 :=
    List.count_eq_zero.2 fun hmem => absurd (hcalled 333 hmem) (by decide)
  have honce := hcount _ 333 332 relabel (hreach 332 (by decide)).1
  rw [hnever, hended] at honce
  exact absurd honce (by simp [Derivation.converts, relabel])

end Store
end HostedModules
