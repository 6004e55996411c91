/-
HostedModules.Proofs.Future.Preorder — the order in which derived futures run.

Dependants are run from a list of work, to which each future that ends adds its
own.  The order that comes of this while there is room for all of them is told
here by recursion on the tree of derivations, without a list of work: a
dependant, then at once all that runs because it ends, then the next dependant.
Behind a future that had ended before nothing runs again.

* `Derivation.converts`, `Derivation.recovers` — the hooks that a derived future
  calls
* `Store.followers`, `Store.preorder` — all that runs when a future ends, depth
  first
* `Store.Ready` — work that is to be done: derived futures whose sources have
  ended
* `events_settle` — to work through the list is to work through the trees
* `events_finish`, `events_derive` — what runs when a future ends, and when one
  is derived late
-/
import Mathlib.Data.List.Basic
import Mathlib.Data.List.Nodup
import HostedModules.Proofs.Future.Messages

namespace HostedModules

namespace Future
namespace Derivation

/-! ## The hooks of one future -/

/-- The conversion is called: there is one, and the source has succeeded. -/
def converts : Derivation → Outcome → Bool
  | .transform (some _) _, .ok _ => true
  | _, _ => false

/-- The recovery is called: there is one, and the source or the conversion has
failed, but not fatally. -/
def recovers (derivation : Derivation) (source : Outcome) : Bool :=
  match derivation, derivation.converted source with
  | .transform _ (some _), .error failure => failure.kind.recoverable
  | _, _ => false

/-- What happens while future `id`, derived in this way, runs on the outcome of
its source. -/
def calls (id : Nat) (derivation : Derivation)
    (source : Outcome) : List Event :=
  (if derivation.converts source then [.converted id] else []) ++
    (if derivation.recovers source then [.recovered id] else []) ++
    (derivation.messages source).map .logged

/-- A future calls no hooks but its own. -/
theorem mem_calls {id : Nat} {derivation : Derivation} {source : Outcome}
    {event : Event} (h : event ∈ derivation.calls id source) :
    event = .converted id ∨ event = .recovered id ∨ ∃ message,
      event = .logged message := by
  simp only [calls, List.mem_append, List.mem_map] at h
  rcases h with (h | h) | ⟨message, -, rfl⟩
  · split at h
    · exact .inl (List.mem_singleton.1 h)
    · exact nomatch h
  · split at h
    · exact .inr (.inl (List.mem_singleton.1 h))
    · exact nomatch h
  · exact .inr (.inr ⟨message, rfl⟩)

theorem count_converted (id : Nat) (derivation : Derivation)
    (source : Outcome) :
    (derivation.calls id source).count (.converted id) =
      if derivation.converts source then 1 else 0 := by
  have hlogged :
      ((derivation.messages source).map Event.logged).count (.converted id) = 0 :=
    List.count_eq_zero.2 (by simp)
  unfold calls
  rw [List.count_append, List.count_append, hlogged]
  split <;> split <;> simp

theorem count_recovered (id : Nat) (derivation : Derivation)
    (source : Outcome) :
    (derivation.calls id source).count (.recovered id) =
      if derivation.recovers source then 1 else 0 := by
  have hlogged :
      ((derivation.messages source).map Event.logged).count (.recovered id) = 0 :=
    List.count_eq_zero.2 (by simp)
  unfold calls
  rw [List.count_append, List.count_append, hlogged]
  split <;> split <;> simp

/-- A future calls its conversion at most once, and then its recovery at most
once. -/
theorem run_snd (id : Nat) (derivation : Derivation) (source : Outcome) :
    (derivation.run id source).2 = derivation.calls id source := by
  cases derivation with
  | transform convert recover =>
      have hconvert : (convertWith id convert source).2 =
          if (transform convert recover).converts source then [.converted id]
            else [] := by
        rcases source with failure | answer <;> rcases convert with _ | f <;> rfl
      have hrecover :
          (recoverWith id recover
            ((transform convert recover).converted source)).2 =
          if (transform convert recover).recovers source then [.recovered id]
            else [] := by
        unfold recovers
        rcases (transform convert recover).converted
          source with failure | answer <;> rcases recover with _ | f
        · rfl
        · simp only [recoverWith]
          split <;> rfl
        · rfl
        · rfl
      show (convertWith id convert source).2 ++
        (recoverWith id recover (convertWith id convert source).1).2 = _
      rw [convertWith_fst id convert recover, hconvert, hrecover]
      exact (List.append_nil _).symm
  | suppress message =>
      rcases source with failure | answer
      · simp only [run, Failure.Kind.isA_alreadyInDesiredState, calls, converts,
          recovers, messages]
        split <;> rfl
      · rfl

end Derivation
end Future

namespace Store

open Future

/-- What happens while a future runs: nothing unless its source has ended. -/
def calls (store : Store) (id : Nat) : List Event :=
  ((store.origin? id).bind fun origin =>
    (store.outcome? origin.1).map (origin.2.calls id)).getD []

/-- A future calls no hooks but its own. -/
theorem mem_calls {store : Store} {id : Nat} {event : Event}
    (h : event ∈ store.calls id) :
    event = .converted id ∨ event = .recovered id ∨ ∃ message,
      event = .logged message := by
  unfold calls at h
  cases ho : store.origin? id with
  | none => simp [ho] at h
  | some origin =>
      cases hs : store.outcome? origin.1 with
      | none => simp [ho, hs] at h
      | some outcome => exact Derivation.mem_calls (by simpa [ho, hs] using h)

theorem calls_eq (store : Store) (id : Nat) :
    store.calls id = ((store.due? id).map Prod.snd).getD [] := by
  rw [calls, due?_eq]
  cases store.origin? id with
  | none => rfl
  | some origin =>
      cases hs : store.outcome? origin.1 <;> simp [hs, Derivation.run_snd]

theorem calls_of_due {store : Store} {id : Nat} {outcome : Outcome}
    {events : List Event} (h : store.due? id = some (outcome, events)) :
    store.calls id = events := by
  rw [calls_eq, h]
  rfl

/-! ## The tree of derivations, depth first -/

/-- All that runs when the future ends: each of its dependants, in the order of
attachment, followed at once by all that runs when that one ends.  Behind a
future that has ended already nothing runs.

Dependants are younger than their source, so the test that the recursion ends by
leaves none of them out. -/
def followers (store : Store) (id : Nat) : List Nat :=
  if store.isOpen id then
    ((store.dependants id).filter (id < ·)).attach.flatMap fun child =>
      child.1 :: store.followers child.1
  else []
termination_by store.next - id
decreasing_by
  obtain ⟨hmem, hlt⟩ := List.mem_filter.1 child.2
  obtain ⟨derivation, horigin⟩ := mem_dependants.1 hmem
  have := lt_next_of_origin? horigin
  have := of_decide_eq_true hlt
  omega

/-- The future, followed by all that runs when it ends. -/
def preorder (store : Store) (id : Nat) : List Nat := id :: store.followers id

theorem followers_of_ended {store : Store} {id : Nat}
    (h : store.isOpen id = false) : store.followers id = [] := by
  rw [followers, h]
  exact if_neg Bool.false_ne_true

theorem preorder_of_ended {store : Store} {id : Nat}
    (h : store.isOpen id = false) : store.preorder id = [id] := by
  rw [preorder, followers_of_ended h]

theorem nodup_dependants (store : Store) (id : Nat) :
    (store.dependants id).Nodup := List.nodup_range.filter _

section Tree

variable {store : Store} (hfirst : store.SourcesFirst)

include hfirst

theorem followers_of_open {id : Nat} (h : store.isOpen id = true) :
    store.followers id = (store.dependants id).flatMap store.preorder := by
  have hall : (store.dependants id).filter (id < ·) = store.dependants id :=
    List.filter_eq_self.2 fun child hmem =>
      decide_eq_true (hfirst.lt_of_mem_dependants hmem)
  rw [followers, if_pos h]
  show (List.attach _).flatMap (fun child => store.preorder child.1) = _
  rw [← List.flatMap_map Subtype.val, List.attach_map_subtype_val, hall]

theorem preorder_of_open {id : Nat} (h : store.isOpen id = true) :
    store.preorder id = id :: (store.dependants id).flatMap store.preorder := by
  rw [preorder, followers_of_open hfirst h]

/-- Induction from the dependants of a future to the future. -/
theorem tree_induction {motive : Nat → Prop}
    (step : ∀ id, (∀ child ∈ store.dependants id, motive child) → motive id)
    (id : Nat) : motive id := by
  induction hleft : store.next - id using Nat.strongRecOn generalizing id with
  | ind left ih =>
      refine step id fun child hmem => ih _ ?_ child rfl
      obtain ⟨derivation, ho⟩ := mem_dependants.1 hmem
      have := lt_next_of_origin? ho
      have := hfirst child id derivation ho
      omega

/-- The futures that run when one ends are those derived from the ones that end
because of it. -/
theorem mem_followers_iff {id other : Nat} :
    other ∈ store.followers id ↔
      ∃ source ∈ store.preorder id, store.isOpen source = true ∧
        other ∈ store.dependants source := by
  induction id using tree_induction hfirst with
  | step id ih =>
      cases hopen : store.isOpen id with
      | false => simp [preorder_of_ended hopen, followers_of_ended hopen, hopen]
      | true =>
          rw [preorder_of_open hfirst hopen, followers_of_open hfirst hopen]
          simp only [List.mem_cons, List.mem_flatMap]
          constructor
          · rintro ⟨child, hchild, hmem⟩
            rcases List.mem_cons.1 hmem with rfl | hmem
            · exact ⟨id, .inl rfl, hopen, hchild⟩
            · obtain ⟨source, hsource, hs, hderived⟩ := (ih child hchild).1 hmem
              exact ⟨source, .inr ⟨child, hchild, hsource⟩, hs, hderived⟩
          · rintro ⟨source, rfl | ⟨child, hchild, hsource⟩, hs, hderived⟩
            · exact ⟨other, hderived, List.mem_cons_self⟩
            · exact ⟨child, hchild,
                List.mem_cons_of_mem _
                ((ih child hchild).2 ⟨source, hsource, hs, hderived⟩)⟩

theorem le_of_mem_preorder {id other : Nat} (h : other ∈ store.preorder id) :
    id ≤ other := by
  induction other using Nat.strongRecOn with
  | ind other ih =>
      rcases List.mem_cons.1 h with rfl | h
      · exact Nat.le_refl _
      · obtain ⟨source, hsource, -, hderived⟩ := (mem_followers_iff hfirst).1 h
        have hlt := hfirst.lt_of_mem_dependants hderived
        exact Nat.le_trans (ih source hlt hsource) (Nat.le_of_lt hlt)

/-- No dependant of a future runs behind another one. -/
theorem not_mem_followers_of_dependants {source child other : Nat}
    (hchild : child ∈ store.dependants source)
    (hother : other ∈ store.dependants source) :
    child ∉ store.followers other := by
  intro hmem
  obtain ⟨parent, hparent, -, hderived⟩ := (mem_followers_iff hfirst).1 hmem
  have hle := le_of_mem_preorder hfirst hparent
  rw [source_unique hderived hchild] at hle
  exact absurd (hfirst.lt_of_mem_dependants hother) (Nat.not_lt.2 hle)

/-- What runs behind one dependant does not run behind another. -/
theorem preorder_disjoint {source child other : Nat}
    (hchild : child ∈ store.dependants source)
    (hother : other ∈ store.dependants source) (hne : child ≠ other) :
    List.Disjoint (store.preorder child) (store.preorder other) := by
  intro id
  induction id using Nat.strongRecOn with
  | ind id ih =>
      intro hid hid'
      rcases List.mem_cons.1 hid with rfl | hid <;>
        rcases List.mem_cons.1 hid' with rfl | hid'
      · exact hne rfl
      · exact not_mem_followers_of_dependants hfirst hchild hother hid'
      · exact not_mem_followers_of_dependants hfirst hother hchild hid
      · obtain ⟨parent, hparent, -, hderived⟩ :=
          (mem_followers_iff hfirst).1 hid
        obtain ⟨parent', hparent', -, hderived'⟩ :=
          (mem_followers_iff hfirst).1 hid'
        rw [source_unique hderived' hderived] at hparent'
        exact ih parent (hfirst.lt_of_mem_dependants hderived) hparent hparent'

/-- Nothing runs twice. -/
theorem nodup_preorder (id : Nat) : (store.preorder id).Nodup := by
  induction id using tree_induction hfirst with
  | step id ih =>
      cases hopen : store.isOpen id with
      | false =>
          rw [preorder_of_ended hopen]
          exact List.nodup_singleton id
      | true =>
          rw [preorder_of_open hfirst hopen, List.nodup_cons,
            List.nodup_flatMap]
          refine ⟨fun hmem => ?_, ih, ?_⟩
          · obtain ⟨child, hchild, hid⟩ := List.mem_flatMap.1 hmem
            exact absurd (hfirst.lt_of_mem_dependants hchild)
              (Nat.not_lt.2 (le_of_mem_preorder hfirst hid))
          · exact (store.nodup_dependants id).pairwise_of_forall_ne
              fun child hchild other hother hne =>
              preorder_disjoint hfirst hchild hother hne

/-- What follows a future that ends because of another one stands together. -/
theorem followers_infix {id other : Nat} (h : id ∈ store.preorder other) :
    store.followers id <:+: store.followers other := by
  induction other using tree_induction hfirst with
  | step other ih =>
      rcases List.mem_cons.1 h with rfl | h
      · exact List.infix_rfl
      · cases hopen : store.isOpen other with
        | false =>
            rw [followers_of_ended hopen] at h; exact absurd h List.not_mem_nil
        | true =>
            rw [followers_of_open hfirst hopen] at h ⊢
            obtain ⟨child, hchild, hid⟩ := List.mem_flatMap.1 h
            have hbehind : store.followers child <:+: store.preorder child :=
              (List.suffix_cons child _).isInfix
            exact (ih child hchild hid).trans
              (hbehind.trans (List.infix_flatMap_of_mem hchild store.preorder))

/-- Which futures run, and in which order, depends on nothing but the tree and
on which of them have ended. -/
theorem preorder_congr {other : Store}
    (hdependants : ∀ id, other.dependants id = store.dependants id) {id : Nat}
    (hopen : ∀ id' ∈ store.preorder id, other.isOpen id' = store.isOpen id') :
    other.preorder id = store.preorder id := by
  have hfirst' : other.SourcesFirst := by
    intro id source derivation ho
    exact hfirst.lt_of_mem_dependants
      (hdependants source ▸ mem_dependants.2 ⟨derivation, ho⟩)
  induction id using tree_induction hfirst with
  | step id ih =>
      have hid := hopen id List.mem_cons_self
      cases hs : store.isOpen id with
      | false => rw [preorder_of_ended hs, preorder_of_ended (hid.trans hs)]
      | true =>
          rw [preorder_of_open hfirst hs] at hopen ⊢
          rw [preorder_of_open hfirst' (hid.trans hs), hdependants]
          refine congrArg (id :: ·) (List.flatMap_congr fun child hchild =>
            ih child hchild fun id' hmem => ?_)
          exact hopen id'
            (List.mem_cons_of_mem _ (List.mem_flatMap.2 ⟨child, hchild, hmem⟩))

/-- What runs when a future ends was not due before. -/
theorem due?_of_mem_followers {id other : Nat}
    (h : id ∈ store.followers other) : store.due? id = none := by
  obtain ⟨source, -, hopen, hderived⟩ := (mem_followers_iff hfirst).1 h
  rw [← Option.not_isSome_iff_eq_none, due?_isSome_iff]
  rintro ⟨source', derivation, ho, hs⟩
  rw [eq_of_mem_dependants hderived ho, (isOpen_iff_outcome?.1 hopen).2] at hs
  exact absurd hs (by simp)

/-- If the futures that have ended since are some together with those that run
behind them, then the latter are those that have become due. -/
theorem due_of_ended {later : Store} {ids : List Nat}
    (horigin : ∀ id, later.origin? id = store.origin? id)
    (hended : ∀ id, (later.outcome? id).isSome ↔ (store.outcome? id).isSome ∨
      id ∈ ids.flatMap store.preorder)
    (other : Nat) :
    (later.due? other).isSome ↔ (store.due? other).isSome ∨
      other ∈ ids.flatMap store.followers := by
  simp only [due?_isSome_iff, horigin, hended, List.mem_flatMap]
  constructor
  · rintro ⟨source, derivation, ho, hs⟩
    cases hopen : store.isOpen source with
    | false =>
        have hlt := Nat.lt_trans (hfirst other source derivation ho)
          (lt_next_of_origin? ho)
        exact .inl ⟨source, derivation, ho, ended_of_closed hlt hopen⟩
    | true =>
        obtain ⟨id, hid, hsource⟩ :=
          hs.resolve_left (by simp [(isOpen_iff_outcome?.1 hopen).2])
        exact .inr ⟨id, hid,
          (mem_followers_iff hfirst).2 ⟨source, hsource, hopen,
            mem_dependants.2 ⟨derivation, ho⟩⟩⟩
  · rintro (⟨source, derivation, ho, hs⟩ | ⟨id, hid, hmem⟩)
    · exact ⟨source, derivation, ho, .inl hs⟩
    · obtain ⟨source, hsource, -, hderived⟩ := (mem_followers_iff hfirst).1 hmem
      obtain ⟨derivation, ho⟩ := mem_dependants.1 hderived
      exact ⟨source, derivation, ho, .inr ⟨id, hid, hsource⟩⟩

/-- The end of a future changes nothing for those behind which it does not
run. -/
theorem preorder_mark {id other : Nat} (status : Status)
    (h : id ∉ store.preorder other) :
    (store.mark id status).preorder other = store.preorder other :=
  preorder_congr hfirst (dependants_mark store id · status) fun _ hmem =>
    isOpen_mark_of_ne status fun heq => h (heq ▸ hmem)

theorem preorder_mark_dependant {id child : Nat} (status : Status)
    (h : child ∈ store.dependants id) :
    (store.mark id status).preorder child = store.preorder child :=
  preorder_mark hfirst status fun hmem =>
    absurd (hfirst.lt_of_mem_dependants h)
      (Nat.not_lt.2 (le_of_mem_preorder hfirst hmem))

end Tree

/-! ## Working through a list -/

/-- Derived futures whose sources have ended, each of them once. -/
structure Ready (store : Store) (work : List Nat) : Prop where
  older : store.SourcesFirst
  nodup : work.Nodup
  due : ∀ id ∈ work, (store.due? id).isSome

section Ready

variable {store : Store} {id : Nat} {rest : List Nat}

theorem Ready.tail (h : store.Ready (id :: rest)) : store.Ready rest :=
  ⟨h.older, (List.nodup_cons.1 h.nodup).2,
    fun other hmem => h.due other (List.mem_cons_of_mem _ hmem)⟩

theorem Ready.due?_ne_none (h : store.Ready (id :: rest)) :
    store.due? id ≠ none :=
  Option.ne_none_iff_isSome.2 (h.due id List.mem_cons_self)

/-- When a future ends, its dependants are work that was not there before. -/
theorem Ready.mark (h : store.Ready rest) (hopen : store.isOpen id = true)
    (status : Status) (hended : status.outcome?.isSome) :
    (store.mark id status).Ready (store.dependants id ++ rest) := by
  obtain ⟨hlt, hnone⟩ := isOpen_iff_outcome?.1 hopen
  refine ⟨fun other source derivation ho => h.older other source derivation
    (by simpa using ho), ?_, ?_⟩
  · refine (store.nodup_dependants id).append h.nodup fun other hmem hrest => ?_
    obtain ⟨source, derivation, ho, hs⟩ := due?_isSome_iff.1 (h.due other hrest)
    rw [eq_of_mem_dependants hmem ho, hnone] at hs
    exact absurd hs (by simp)
  · intro other hmem
    rcases List.mem_append.1 hmem with hmem | hmem
    · obtain ⟨derivation, ho⟩ := mem_dependants.1 hmem
      exact due?_isSome_iff.2 ⟨id, derivation, by rw [origin?_mark, ho], by
        rwa [outcome?_mark_self status hlt]⟩
    · obtain ⟨result, hdue⟩ := Option.isSome_iff_exists.1 (h.due other hmem)
      rw [(extends_mark status hopen).due? hdue]
      rfl

/-- When the first future of the work has ended, what is left is what runs
behind that one, and then the rest. -/
theorem Ready.preorder_mark (h : store.Ready (id :: rest))
    (hopen : store.isOpen id = true) (status : Status) :
    (id :: rest).flatMap store.preorder =
      id :: (store.dependants id ++ rest).flatMap
        (store.mark id status).preorder := by
  have hrest : ∀ other ∈ rest, id ∉ store.preorder other := by
    intro other hmem hid
    rcases List.mem_cons.1 hid with rfl | hid
    · exact (List.nodup_cons.1 h.nodup).1 hmem
    · exact h.due?_ne_none (due?_of_mem_followers h.older hid)
  rw [List.flatMap_cons, preorder_of_open h.older hopen, List.flatMap_append,
    List.cons_append]
  congr 2
  · exact List.flatMap_congr fun child hchild =>
      (preorder_mark_dependant h.older status hchild).symm
  · exact List.flatMap_congr fun other hmem =>
      (Store.preorder_mark h.older status (hrest other hmem)).symm

/-- When the first future of the work had ended before, what is left is the
rest. -/
theorem Ready.preorder_ended (h : store.Ready (id :: rest))
    (hclosed : store.isOpen id = false) :
    (store.outcome? id).isSome ∧ (id :: rest).flatMap store.preorder =
      id :: rest.flatMap store.preorder := by
  obtain ⟨source, derivation, ho, -⟩ :=
    due?_isSome_iff.1 (h.due id List.mem_cons_self)
  refine ⟨ended_of_closed (lt_next_of_origin? ho) hclosed, ?_⟩
  rw [List.flatMap_cons, preorder_of_ended hclosed, List.singleton_append]

end Ready

/-- The futures that end are those that run behind the work, apart from those
that had ended before. -/
theorem ended_settle {work : List Task} {store : Store}
    (h : store.Ready (work.map Task.id)) (hfits : store.Fits work)
    (other : Nat) :
    ((settle work store).1.outcome? other).isSome ↔
      (store.outcome? other).isSome ∨
        other ∈ (work.map Task.id).flatMap store.preorder := by
  induction work, store using settle_induction with
  | nil store => simp
  | idle task rest store hdue ih => exact absurd hdue h.due?_ne_none
  | due task rest store outcome events hdue hopen ih =>
      have hready := h.tail.mark hopen (.finished outcome) rfl
      rw [← map_id_tasks store (task.room - 1), ← List.map_append] at hready
      rw [hfits.upcoming] at ih
      rw [settle_due rest hdue hopen, hfits.upcoming,
        ih hready (hfits.mark hopen rfl), List.map_append, map_id_tasks,
        List.map_cons, h.preorder_mark hopen (.finished outcome), List.mem_cons]
      by_cases hid : other = task.id
      · subst hid
        simp [outcome?_mark_self (.finished outcome) (lt_next_of_isOpen hopen),
          Status.outcome?]
      · simp [outcome?_mark_of_ne _ hid, hid]
  | late task rest store outcome events hdue hclosed ih =>
      obtain ⟨hended, hrest⟩ := h.preorder_ended hclosed
      rw [hfits.tail.unwind] at ih
      rw [settle_late rest hdue hclosed, hfits.tail.unwind,
        ih h.tail hfits.tail, List.map_cons, hrest, List.mem_cons]
      by_cases hid : other = task.id
      · subst hid
        simp [hended]
      · simp [hid]

/-- **Dependants run depth first.**  To work through a list for which there is
room is to run the futures in it, each followed at once by all that runs when it
ends, and no others. -/
theorem events_settle {work : List Task} {store : Store}
    (h : store.Ready (work.map Task.id)) (hfits : store.Fits work) :
    (settle work store).2 = ((work.map Task.id).flatMap store.preorder).flatMap
      (settle work store).1.calls := by
  induction work, store using settle_induction with
  | nil store => simp
  | idle task rest store hdue ih => exact absurd hdue h.due?_ne_none
  | due task rest store outcome events hdue hopen ih =>
      have hready := h.tail.mark hopen (.finished outcome) rfl
      rw [← map_id_tasks store (task.room - 1), ← List.map_append] at hready
      rw [hfits.upcoming] at ih
      have hlater := (extends_mark (.finished outcome) hopen).trans
        (settle_extends (store.tasks (task.room - 1) task.id ++ rest)
          (store.mark task.id (.finished outcome)))
      rw [settle_due rest hdue hopen, hfits.upcoming, List.map_cons,
        h.preorder_mark hopen (.finished outcome), List.flatMap_cons,
        calls_of_due (hlater.due? hdue), ← map_id_tasks store (task.room - 1),
        ← List.map_append, ← ih hready (hfits.mark hopen rfl)]
  | late task rest store outcome events hdue hclosed ih =>
      rw [hfits.tail.unwind] at ih
      rw [settle_late rest hdue hclosed, hfits.tail.unwind, List.map_cons,
        (h.preorder_ended hclosed).2, List.flatMap_cons,
        calls_of_due ((settle_extends rest store).due? hdue),
        ← ih h.tail hfits.tail]

/-! ## Ending one future -/

section Finish

variable {store : Store} {id : Nat} {status : Status}
  (hfirst : store.SourcesFirst) (hopen : store.isOpen id = true)
  (hshallow : store.Shallow levelLimit id) (hended : status.open = false)

include hfirst hopen hended

theorem ready_finish : (store.mark id status).Ready
    ((store.tasks stackRoom id).map Task.id) := by
  have hready : store.Ready [] :=
    ⟨hfirst, List.nodup_nil, fun _ hmem => absurd hmem List.not_mem_nil⟩
  simpa using hready.mark hopen status (Status.closed_iff.1 hended)

include hshallow

/-- A future ends together with all the open ones that run because of it. -/
theorem ended_finish (other : Nat) :
    ((store.finish id status).1.outcome? other).isSome ↔
      (store.outcome? other).isSome ∨ other ∈ store.preorder id := by
  rw [finish, ended_settle (ready_finish hfirst hopen hended)
      (hshallow.fits hopen hended), preorder_of_open hfirst hopen, map_id_tasks,
    List.flatMap_congr fun child => preorder_mark_dependant hfirst status,
    List.mem_cons]
  by_cases hid : other = id
  · subst hid
    simp [outcome?_mark_self status (lt_next_of_isOpen hopen),
      Status.closed_iff.1 hended]
  · simp [outcome?_mark_of_ne status hid, hid]

/-- When a future ends, its followers become due. -/
theorem due_finish (other : Nat) :
    ((store.finish id status).1.due? other).isSome ↔
      (store.due? other).isSome ∨ other ∈ store.followers id := by
  have hends : ∀ id', ((store.finish id status).1.outcome? id').isSome ↔
      (store.outcome? id').isSome ∨ id' ∈ [id].flatMap store.preorder := by
    simpa using ended_finish hfirst hopen hshallow hended
  simpa using due_of_ended hfirst
    (fun id' => by rw [finish, origin?_settle, origin?_mark]) hends other

/-- When a future ends, its followers run. -/
theorem events_finish :
    (store.finish id status).2 =
      (store.followers id).flatMap (store.finish id status).1.calls := by
  rw [followers_of_open hfirst hopen,
    ← List.flatMap_congr fun child => preorder_mark_dependant hfirst status,
    ← map_id_tasks store stackRoom]
  exact events_settle (ready_finish hfirst hopen hended)
    (hshallow.fits hopen hended)

end Finish

/-! ## Deriving from a future that has ended -/

section Derive

variable {store : Store} {source : Nat} (derivation : Derivation)
  (hfirst : store.SourcesFirst) (hlt : source < store.next)

include hfirst hlt

/-- Nothing is derived from a new future yet. -/
theorem followers_new : (store.add
    ⟨some (source, derivation), .waiting⟩).followers store.next = [] := by
  have hadd := hfirst.addDerived hlt derivation .waiting
  cases hopen : (store.add ⟨some (source, derivation), .waiting⟩).isOpen
      store.next with
  | false => exact followers_of_ended hopen
  | true =>
      rw [followers_of_open hadd hopen, hadd.dependants_newest (next_add _ _)]
      rfl

variable (hs : (store.outcome? source).isSome)

include hs

theorem ready_derive : (store.add ⟨some (source, derivation), .waiting⟩).Ready
    ([Task.mk stackRoom store.next].map Task.id) := by
  refine ⟨hfirst.addDerived hlt derivation .waiting, List.nodup_singleton _,
    fun id hmem => ?_⟩
  rwa [List.mem_singleton.1 hmem, due?_add_self derivation hlt,
    Option.isSome_map]

theorem ended_derive (other : Nat) :
    ((settle [⟨stackRoom, store.next⟩]
        (store.add ⟨some (source, derivation), .waiting⟩)).1.outcome?
          other).isSome ↔
      (store.outcome? other).isSome ∨ other = store.next := by
  have hready := ready_derive derivation hfirst hlt hs
  rw [ended_settle hready (fits_newest hready.older), List.map_singleton,
    List.flatMap_singleton, preorder, followers_new derivation hfirst hlt,
    List.mem_singleton]
  by_cases hid : other = store.next
  · simp [hid]
  · rw [outcome?_add_of_ne _ hid]

theorem due_derive (other : Nat) :
    ((settle [⟨stackRoom, store.next⟩]
        (store.add ⟨some (source, derivation), .waiting⟩)).1.due?
          other).isSome ↔
      (store.due? other).isSome ∨ other = store.next := by
  have hready := ready_derive derivation hfirst hlt hs
  rw [due_of_ended hready.older (origin?_settle _ _)
      (ended_settle hready (fits_newest hready.older)), List.map_singleton,
    List.flatMap_singleton, followers_new derivation hfirst hlt]
  by_cases hid : other = store.next
  · subst hid
    simp [hready.due store.next List.mem_cons_self]
  · simp [due?_add_of_ne hfirst _ hid, hid]

/-- A future that is derived from one that has ended runs at once, and no other
does. -/
theorem events_derive :
    (settle [⟨stackRoom, store.next⟩]
        (store.add ⟨some (source, derivation), .waiting⟩)).2 =
      [store.next].flatMap (settle [⟨stackRoom, store.next⟩]
        (store.add ⟨some (source, derivation), .waiting⟩)).1.calls := by
  have hready := ready_derive derivation hfirst hlt hs
  rw [events_settle hready (fits_newest hready.older), List.map_singleton,
    List.flatMap_singleton, preorder, followers_new derivation hfirst hlt]

end Derive

end Store
end HostedModules
