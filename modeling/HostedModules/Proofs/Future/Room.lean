/-
HostedModules.Proofs.Future.Room — what there is room for on the stack.

The runs of derived futures are nested as deeply as the derivations are, and
the stack is bounded.  As long as no more than `levelLimit` levels of open
futures are derived from a future that ends, all of them run and nothing is
passed over.

* `Future.levelLimit` — how many levels there is room for
* `Store.Shallow` — no more than so many levels run when a future ends
* `Store.Fits` — there is room for a list of work, and for all that follows
* `Fits.upcoming` — where all of it fits, nothing is passed over
* `Store.RoomFor`, `Store.Roomy` — an operation, and a run, that fits
* `Store.Flat` — no future is derived through more than so many derivations
* `roomy_of_few` — a run with few derivations fits
-/
import HostedModules.Proofs.Future.Run

namespace HostedModules

namespace Future

/-- How many levels of futures, each derived from the one before, there is room
for when a future ends. -/
def levelLimit : Nat := stackRoom + 1 - reportRoom

theorem report_le_stack : reportRoom ≤ stackRoom := by decide

end Future

namespace Store

open Future

/-! ## Levels -/

/-- At most so many levels of futures run when this one ends: its dependants
are the first level, theirs are the next.  Behind a future that has ended
already there are none. -/
def Shallow (store : Store) : Nat → Nat → Prop
  | 0, id => store.isOpen id = true → store.dependants id = []
  | levels + 1, id => store.isOpen id = true →
    ∀ child ∈ store.dependants id, Shallow store levels child

section Shallow

variable {store : Store} {id : Nat}

theorem shallow_of_no_dependants (h : store.dependants id = []) :
    ∀ levels, store.Shallow levels id
  | 0 => fun _ => h
  | _ + 1 => fun _ _ hmem => absurd (h ▸ hmem) List.not_mem_nil

theorem Shallow.succ : ∀ {levels : Nat} {id : Nat},
    store.Shallow levels id → store.Shallow (levels + 1) id
  | 0, _, h => fun hopen _ hmem => absurd (h hopen ▸ hmem) List.not_mem_nil
  | _ + 1, _, h => fun hopen child hmem => (h hopen child hmem).succ

theorem Shallow.mono {levels more : Nat} (h : store.Shallow levels id)
    (hle : levels ≤ more) : store.Shallow more id := by
  induction hle with
  | refl => exact h
  | step _ ih => exact ih.succ

/-- The levels are decided by the dependants and by which futures are open. -/
theorem Shallow.congr {later : Store}
    (hopen : ∀ id, later.isOpen id = true → store.isOpen id = true)
    (hdependants : ∀ id, later.dependants id = store.dependants id) :
    ∀ {levels : Nat} {id : Nat},
      store.Shallow levels id → later.Shallow levels id
  | 0, id, h => fun ho => (hdependants id).trans (h (hopen id ho))
  | _ + 1, id, h => fun ho child hmem =>
    (h (hopen id ho) child (hdependants id ▸ hmem)).congr hopen hdependants

/-- Ending a future adds no level. -/
theorem Shallow.mark {other levels : Nat} {status : Status}
    (h : store.Shallow levels id) (hstatus : status.open = false) :
    (store.mark other status).Shallow levels id := by
  refine h.congr (fun id hopen => ?_) (dependants_mark store other · status)
  by_cases hid : id = other
  · subst hid
    obtain ⟨cell, hcell, hwaiting⟩ := isOpen_iff.1 hopen
    rw [cell?_mark, if_pos rfl] at hcell
    obtain ⟨old, -, rfl⟩ := Option.map_eq_some_iff.1 hcell
    rw [show status = .waiting from hwaiting] at hstatus
    exact absurd hstatus (by decide)
  · rwa [isOpen_mark_of_ne status hid] at hopen

end Shallow

/-! ## Lists of work -/

@[simp] theorem map_id_tasks (store : Store) (room id : Nat) :
    (store.tasks room id).map Task.id = store.dependants id := by
  simp [tasks, Function.comp_def]

/-- There is room to run every task, and all that follows from it. -/
def Fits (store : Store) (work : List Task) : Prop :=
  ∀ task ∈ work, reportRoom ≤ task.room ∧
    store.Shallow (task.room - reportRoom) task.id

section Fits

variable {store : Store} {task : Task} {rest : List Task}

theorem Fits.tail (h : store.Fits (task :: rest)) : store.Fits rest :=
  fun other hmem => h other (List.mem_cons_of_mem _ hmem)

/-- Where all work fits, a failure keeps nothing from its turn. -/
theorem Fits.unwind (h : store.Fits rest) : Future.unwind rest = rest := by
  cases rest with
  | nil => rfl
  | cons task rest =>
      have hroom := (h task List.mem_cons_self).1
      exact List.dropWhile_cons_of_neg (by simpa using hroom)

/-- Where all work fits, all dependants of a future run after it. -/
theorem Fits.upcoming (h : store.Fits (task :: rest)) :
    store.upcoming task rest =
      store.tasks (task.room - 1) task.id ++ rest := by
  obtain ⟨room, id⟩ := task
  have hroom : reportRoom ≤ room := (h _ List.mem_cons_self).1
  cases room with
  | zero => exact absurd hroom (by decide)
  | succ room => rfl

/-- Where all work fits, what follows from it fits as well. -/
theorem Fits.mark (h : store.Fits (task :: rest))
    (hopen : store.isOpen task.id = true) {status : Status}
    (hstatus : status.open = false) :
    (store.mark task.id status).Fits
      (store.tasks (task.room - 1) task.id ++ rest) := by
  intro other hmem
  rcases List.mem_append.1 hmem with hmem | hmem
  · obtain ⟨child, hchild, rfl⟩ := List.mem_map.1 hmem
    obtain ⟨hroom, hshallow⟩ := h task List.mem_cons_self
    show reportRoom ≤ task.room - 1 ∧
      Shallow _ (task.room - 1 - reportRoom) child
    cases hlevels : task.room - reportRoom with
    | zero =>
        rw [hlevels] at hshallow
        rw [hshallow hopen] at hchild
        exact absurd hchild List.not_mem_nil
    | succ levels =>
        rw [hlevels] at hshallow
        refine ⟨by omega, ?_⟩
        rw [show task.room - 1 - reportRoom = levels by omega]
        exact (hshallow hopen child hchild).mark hstatus
  · obtain ⟨hroom, hshallow⟩ := h.tail other hmem
    exact ⟨hroom, hshallow.mark hstatus⟩

/-- There is room for what runs when a future ends with no more levels of
others behind it than the limit. -/
theorem Shallow.fits {id : Nat} {status : Status}
    (h : store.Shallow levelLimit id) (hopen : store.isOpen id = true)
    (hstatus : status.open = false) :
    (store.mark id status).Fits (store.tasks stackRoom id) := by
  intro task hmem
  obtain ⟨child, hchild, rfl⟩ := List.mem_map.1 hmem
  exact ⟨report_le_stack, (h hopen child hchild).mark hstatus⟩

/-- There is room for a future from which nothing is derived yet. -/
theorem fits_newest {cell : Cell} (hfirst : (store.add cell).SourcesFirst) :
    (store.add cell).Fits [⟨stackRoom, store.next⟩] := by
  intro task hmem
  obtain rfl := List.mem_singleton.1 hmem
  exact ⟨report_le_stack,
    shallow_of_no_dependants (hfirst.dependants_newest (next_add _ _)) _⟩

end Fits

/-! ## Runs that fit -/

/-- There is room for all that the operation sets off. -/
def RoomFor (store : Store) : Op → Prop
  | .set id _ => store.Shallow levelLimit id
  | .cancel id => store.origin? id = none → store.Shallow levelLimit id
  | _ => True

/-- There is room for all that each operation of the run sets off. -/
def Roomy (ops : List Op) : Prop :=
  ∀ earlier op later, ops = earlier ++ op :: later →
    (after earlier).RoomFor op

theorem roomy_concat {ops : List Op} {op : Op} :
    Roomy (ops ++ [op]) ↔ Roomy ops ∧ (after ops).RoomFor op := by
  constructor
  · intro h
    refine ⟨fun earlier op' later heq => ?_, h ops op [] rfl⟩
    exact h earlier op' (later ++ [op]) (by simp [heq])
  · rintro ⟨h, hlast⟩ earlier op' later heq
    rcases List.eq_nil_or_concat later with rfl | ⟨later', last, rfl⟩
    · obtain ⟨rfl, h'⟩ := List.append_inj' heq rfl
      obtain rfl : op = op' := by simpa using h'
      exact hlast
    · rw [List.concat_eq_append, ← List.cons_append, ← List.append_assoc] at heq
      exact h earlier op' later' (List.append_inj' heq rfl).1

theorem Roomy.append {ops more : List Op} (h : Roomy (ops ++ more)) :
    Roomy ops :=
  fun earlier op later heq => h earlier op (later ++ more) (by simp [heq])

/-! ## Stores without long derivations -/

/-- The future is derived through so many derivations, or more. -/
def Deep (store : Store) : Nat → Nat → Prop
  | 0, _ => True
  | count + 1, id => ∃ source derivation,
    store.origin? id = some (source, derivation) ∧ Deep store count source

/-- No future is derived through more than so many derivations. -/
def Flat (store : Store) (count : Nat) : Prop :=
  ∀ id, ¬ store.Deep (count + 1) id

section Flat

variable {store : Store} {count : Nat}

theorem Deep.pred : ∀ {count : Nat} {id : Nat},
    store.Deep (count + 1) id → store.Deep count id
  | 0, _, _ => True.intro
  | _ + 1, _, ⟨source, derivation, ho, h⟩ => ⟨source, derivation, ho, h.pred⟩

theorem Deep.mono {count more id : Nat} (h : store.Deep more id)
    (hle : count ≤ more) : store.Deep count id := by
  induction hle with
  | refl => exact h
  | step _ ih => exact ih h.pred

theorem Flat.mono {more : Nat} (h : store.Flat count) (hle : count ≤ more) :
    store.Flat more :=
  fun id hdeep => h id (hdeep.mono (Nat.succ_le_succ hle))

/-- Only where futures come from matters. -/
theorem Deep.congr {later : Store}
    (horigin : ∀ id origin, store.origin? id = some origin →
      later.origin? id = some origin) :
    ∀ {count id : Nat}, store.Deep count id → later.Deep count id
  | 0, _, _ => True.intro
  | _ + 1, id, ⟨source, derivation, ho, h⟩ =>
    ⟨source, derivation, horigin id _ ho, h.congr horigin⟩

/-- What is flat was flat before. -/
theorem Extends.flat {earlier later : Store} (h : earlier.Extends later)
    (hflat : later.Flat count) : earlier.Flat count :=
  fun id hdeep => hflat id <| hdeep.congr fun _ _ ho =>
    (h.origin? (lt_next_of_origin? ho)).trans ho

theorem Flat.mark (h : store.Flat count) (id : Nat) (status : Status) :
    (store.mark id status).Flat count :=
  fun other hdeep => h other <| hdeep.congr fun _ _ ho => by
    rwa [origin?_mark] at ho

theorem Flat.settle (h : store.Flat count) (work : List Task) :
    (Store.settle work store).1.Flat count :=
  fun other hdeep => h other <| hdeep.congr fun _ _ ho => by
    rwa [origin?_settle] at ho

theorem Flat.finish (h : store.Flat count) (id : Nat) (status : Status) :
    (store.finish id status).1.Flat count :=
  (h.mark id status).settle _

/-- A new future makes no other one deeper. -/
theorem deep_of_add (hfirst : store.SourcesFirst) {cell : Cell} :
    ∀ {count id : Nat}, id ≠ store.next →
      (store.add cell).Deep count id → store.Deep count id
  | 0, _, _, _ => True.intro
  | _ + 1, id, hne, ⟨source, derivation, ho, h⟩ => by
      rw [origin?_add, if_neg hne] at ho
      have hlt := hfirst id source derivation ho
      have hlast := lt_next_of_origin? ho
      exact ⟨source, derivation, ho, deep_of_add hfirst (by omega) h⟩

theorem Flat.addRoot (h : store.Flat count) (hfirst : store.SourcesFirst)
    (status : Status) : (store.add ⟨none, status⟩).Flat count := by
  intro id hdeep
  by_cases hid : id = store.next
  · obtain ⟨source, derivation, ho, -⟩ := hdeep
    rw [origin?_add, if_pos hid] at ho
    exact absurd ho (by simp)
  · exact h id (deep_of_add hfirst hid hdeep)

/-- A new future is one derivation deeper than its source. -/
theorem deep_addDerived (hfirst : store.SourcesFirst) {source : Nat}
    (hlt : source < store.next) {derivation : Derivation} {status : Status}
    (hdeep : (store.add ⟨some (source, derivation), status⟩).Deep
      (count + 1) store.next) : store.Deep count source := by
  obtain ⟨source', derivation', ho, h⟩ := hdeep
  rw [origin?_add, if_pos rfl] at ho
  obtain ⟨rfl, rfl⟩ : source = source' ∧ derivation = derivation' := by
    simpa using ho
  exact deep_of_add hfirst (by omega) h

theorem Flat.derive (h : store.Flat count) (hfirst : store.SourcesFirst)
    {source : Nat} (hlt : source < store.next)
    (hsource : ¬ store.Deep count source) (derivation : Derivation) :
    (store.derive source derivation).2.1.Flat count := by
  have hadd :
      (store.add ⟨some (source, derivation), .waiting⟩).Flat count := by
    intro id hdeep
    by_cases hid : id = store.next
    · subst hid
      exact hsource (deep_addDerived hfirst hlt hdeep)
    · exact h id (deep_of_add hfirst hid hdeep)
  exact hadd.settle _

/-- The operation derives a future. -/
def Op.derives : Op → Bool
  | .derive _ _ => true
  | _ => false

/-- No future of a run is derived through more derivations than the run has. -/
theorem flat_after (ops : List Op) :
    (after ops).Flat (ops.countP Op.derives) := by
  induction ops using List.reverseRecOn with
  | nil => exact fun id ⟨_, _, ho, _⟩ => by simp [origin?, cell?, empty] at ho
  | append_singleton ops op ih =>
      have hfirst := sourcesFirst_after ops
      rw [after_concat, List.countP_append]
      refine step_cases (motive := fun op result =>
        result.1.Flat (_ + [op].countP Op.derives)) ?_ ?_ ?_ ?_ ?_ op
      · intro op status _
        exact (ih.addRoot hfirst status).mono (Nat.le_add_right _ _)
      · intro id outcome _
        exact (ih.finish id _).mono (Nat.le_add_right _ _)
      · intro id _ _
        exact (ih.finish id _).mono (Nat.le_add_right _ _)
      · intro source derivation hlt
        exact (ih.mono (Nat.le_succ _)).derive hfirst hlt (ih source) derivation
      · intro op _
        exact ih.mono (Nat.le_add_right _ _)

/-- Where no derivation is longer, there are no more levels. -/
theorem Flat.shallow_of_deep : ∀ {levels count id : Nat},
    store.Flat (count + levels) → store.Deep count id → store.Shallow levels id
  | 0, count, id, h, hdeep =>
      fun _ => dependants_eq_nil fun child derivation ho =>
    h child ⟨id, derivation, ho, hdeep⟩
  | levels + 1, count, id, h, hdeep => fun _ child hmem => by
      obtain ⟨derivation, ho⟩ := mem_dependants.1 hmem
      rw [← Nat.add_assoc, Nat.add_right_comm] at h
      exact h.shallow_of_deep ⟨id, derivation, ho, hdeep⟩

theorem Flat.shallow (h : store.Flat count) (id : Nat) :
    store.Shallow count id := by
  have hflat : store.Flat (0 + count) := by rwa [Nat.zero_add]
  exact hflat.shallow_of_deep (show store.Deep 0 id from True.intro)

theorem Flat.roomFor (h : store.Flat levelLimit) : ∀ op, store.RoomFor op
  | .create => True.intro
  | .submit _ => True.intro
  | .set id _ => h.shallow id
  | .cancel id => fun _ => h.shallow id
  | .derive _ _ => True.intro

end Flat

/-- There is room for every run in which no future is derived through more
derivations than the limit. -/
theorem roomy_of_flat {ops : List Op} (h : (after ops).Flat levelLimit) :
    Roomy ops := by
  rintro earlier op later rfl
  exact ((after_extends earlier (op :: later)).flat h).roomFor op

/-- There is room for every run with no more derivations than the limit. -/
theorem roomy_of_few {ops : List Op} (h : ops.countP Op.derives ≤ levelLimit) :
    Roomy ops :=
  roomy_of_flat ((flat_after ops).mono h)

end Store
end HostedModules
