/-
HostedModules.Proofs.Session.Run — what the steps of a process do to its
futures.

* `Session.after`, `Session.log` — the session after some steps, and the
  messages that they logged
* `Session.Allows`, `Session.Orderly` — nobody but the library ends the futures
  that the library derives
* `Moves`, `take_moves` — a step adds the futures of one call, ends a future of
  the channel, or changes no future
* `Steady` — derived futures follow their sources, and none is derived through
  more futures than those of one call
* `steady_after` — every orderly run is steady
* `log_after` — the messages of an orderly run are those that its futures log,
  each once
-/
import HostedModules.Proofs.Dispatch.Start
import HostedModules.Session

namespace HostedModules
namespace Session

open Future

/-- The session after some steps. -/
def after (service : Service) (session : Session)
    (steps : List Step) : Session :=
  steps.foldl (fun session step => (take service session step).session) session

/-- The messages that some steps log, those of diagnostics left out. -/
def log (service : Service) (session : Session) : List Step → List String
  | [] => []
  | step :: rest =>
    Effect.infos (take service session step).effects ++
      log service (take service session step).session rest

/-- The step sets no derived future: it is for the channel to end the futures
that it handed out. -/
def Allows (session : Session) : Step → Prop
  | .settle id _ => session.store.origin? id = none
  | _ => True

/-- All steps are allowed when they are taken. -/
def Orderly (service : Service) (session : Session) : List Step → Prop
  | [] => True
  | step :: rest =>
      session.Allows step ∧
        Orderly service (take service session step).session rest

@[simp] theorem after_nil (service : Service) (session : Session) :
    after service session [] = session := rfl

theorem after_cons (service : Service) (session : Session) (step : Step)
    (rest : List Step) :
    after service session (step :: rest) =
      after service (take service session step).session rest := rfl

theorem after_append (service : Service) (session : Session) (a b : List Step) :
    after service session (a ++ b) =
      after service (after service session a) b := List.foldl_append

theorem orderly_append {service : Service} {session : Session}
    {a b : List Step} :
    Orderly service session (a ++ b) ↔
      Orderly service session a ∧ Orderly service (after service session a) b := by
  induction a generalizing session with
  | nil => exact ⟨fun h => ⟨True.intro, h⟩, And.right⟩
  | cons step rest ih =>
      constructor
      · rintro ⟨hallow, h⟩
        obtain ⟨hrest, hb⟩ := ih.1 h
        exact ⟨⟨hallow, hrest⟩, hb⟩
      · rintro ⟨⟨hallow, hrest⟩, hb⟩
        exact ⟨hallow, ih.2 ⟨hrest, hb⟩⟩

/-! ## One step -/

/-- All that a step may do to the futures, and what it logs meanwhile. -/
inductive Moves (store : Store) : Step → Store → List String → Prop
  | still (step : Step) : Moves store step store []
  | call (step : Step) (status : Status) (derivations : List Derivation)
      (hlength : derivations.length ≤ 2) :
      Moves store step ((store.add ⟨none, status⟩).chain derivations).1
        (messages ((store.add ⟨none, status⟩).chain derivations).2)
  | settle (id : Nat) (outcome : Outcome) (hopen : store.isOpen id = true)
      (hroot : store.origin? id = none) :
      Moves store (.settle id outcome) (store.finish id (.finished outcome)).1
        (messages (store.finish id (.finished outcome)).2)
  | cancel (id : Nat) (hopen : store.isOpen id = true)
      (hroot : store.origin? id = none) :
      Moves store (.cancel id) (store.finish id .cancelled).1
        (messages (store.finish id .cancelled).2)

theorem moves_conclude {session : Session} {attempt : Attempt} (step : Step)
    (report : Store → Nat → Except Failure Report)
    (h : attempt.Refused session.store ∨
      ∃ status derivations, derivations.length ≤ 2 ∧
        attempt.Starts session.store status derivations) :
    Moves session.store step (session.conclude report attempt).session.store
      (Effect.infos (session.conclude report attempt).effects) := by
  show Moves session.store step attempt.store (Effect.infos attempt.effects)
  rcases h with hrefused | ⟨status, derivations, hlength, hstarts⟩
  · rw [hrefused.stored, hrefused.infos]
    exact .still step
  · rw [hstarts.stored, hstarts.infos]
    exact .call step status derivations hlength

/-- Every allowed step moves the futures in one of these ways. -/
theorem take_moves (service : Service) {session : Session} {step : Step}
    (hallow : session.Allows step) :
    Moves session.store step (take service session step).session.store
      (Effect.infos (take service session step).effects) := by
  have hcall : ∀ call circumstances,
      (Dispatch.startCall service circumstances call session.store).Refused
        session.store ∨
        ∃ status derivations, derivations.length ≤ 2 ∧
          (Dispatch.startCall service circumstances call session.store).Starts
            session.store status derivations := by
    intro call circumstances
    rcases Dispatch.startCall_cases service circumstances call
      session.store with
      h | ⟨status, derivations, hlength, h, -⟩
    · exact Or.inl h
    · exact Or.inr ⟨status, derivations, hlength, h⟩
  cases step with
  | call call limit backends => exact moves_conclude _ _ (hcall call _)
  | launch call backends => exact moves_conclude _ _ (hcall call _)
  | settle id outcome =>
      cases hopen : session.store.isOpen id with
      | true =>
          have hset : session.store.set id outcome =
              .ok (session.store.finish id (.finished outcome)) :=
            if_pos hopen
          simp only [take, hset, Effect.infos_ofEvents]
          exact .settle id outcome hopen hallow
      | false =>
          have hset : session.store.set id outcome =
              .error (Failure.unworded .invalidState) :=
            if_neg (by rw [hopen]; exact Bool.false_ne_true)
          simp only [take, hset]
          exact .still _
  | cancel id =>
      rcases session.store.cancel_cases id with ⟨hopen, hroot, heq⟩ | ⟨-,
        answer, heq⟩
      · simp only [take, heq, Effect.infos_ofEvents]
        exact .cancel id hopen hroot
      · simp only [take, heq]
        exact .still _
  | wait id limit => exact .still _
  | optIn answer => exact .still _
  | setVariable name value => exact .still _
  | bind context => exact .still _
  | unbind => exact .still _

/-- Derived futures follow their sources, and none is derived through more
futures than those of one call. -/
structure Steady (store : Store) : Prop where
  settling : store.Settling (fun _ => False) []
  flat : store.Flat 2

theorem steady_empty : Steady .empty :=
  ⟨Store.settling_empty _, fun _ ⟨_, _, ho, _⟩ => absurd ho (by
    simp [Store.origin?, Store.cell?, Store.empty])⟩

section Steady

variable {store : Store} (h : Steady store)

include h

/-- There is room for all futures of a call. -/
theorem Steady.shallow (id : Nat) : store.Shallow levelLimit id :=
  (h.flat.mono (by decide)).shallow id

theorem Steady.addRoot (status : Status) : Steady (store.add ⟨none, status⟩) :=
  ⟨h.settling.addRoot status, h.flat.addRoot h.settling.older status⟩

/-- A call adds its futures behind a new one. -/
theorem Steady.call (status : Status) {derivations : List Derivation}
    (hlength : derivations.length ≤ 2) :
    Steady ((store.add ⟨none, status⟩).chain derivations).1 := by
  have hadd := h.addRoot status
  refine ⟨hadd.settling.chain (by simp) derivations,
    Store.Flat.chain hadd.settling.older (by simp) 0 hadd.flat ?_ (by omega)⟩
  rintro ⟨source, derivation, ho, -⟩
  rw [Store.next_add, Nat.add_sub_cancel, Store.origin?_add, if_pos rfl] at ho
  exact absurd ho (by simp)

theorem Steady.finish {id : Nat} {status : Status}
    (hopen : store.isOpen id = true) (hstatus : status.open = false)
    (hroot : store.origin? id = none) : Steady (store.finish id status).1 :=
  ⟨h.settling.finish hopen (h.shallow id) hstatus (Or.inl hroot) fun _ hf => hf,
    h.flat.finish id status⟩

end Steady

section Moves

variable {store store' : Store} {step : Step} {infos : List String}

theorem Moves.extends (h : Moves store step store' infos) :
    store.Extends store' := by
  cases h with
  | still => exact Store.Extends.refl store
  | call _ status derivations hlength =>
      exact (Store.extends_add store _).trans (Store.chain_extends _ _)
  | settle id outcome hopen hroot => exact Store.finish_extends _ hopen
  | cancel id hopen hroot => exact Store.finish_extends _ hopen

theorem Moves.keeps (h : Moves store step store' infos) :
    store.Keeps store' := by
  cases h with
  | still => exact Store.Keeps.refl store
  | call _ status derivations hlength =>
      exact Store.chain_keeps derivations
        (Store.keeps_add ⟨none, status⟩ (by simp)) (by simp)
  | settle id outcome hopen hroot => exact Store.keeps_finish store id _
  | cancel id hopen hroot => exact Store.keeps_finish store id _

theorem Moves.steady (h : Moves store step store' infos) (hs : Steady store) :
    Steady store' := by
  cases h with
  | still => exact hs
  | call _ status derivations hlength => exact hs.call status hlength
  | settle id outcome hopen hroot => exact hs.finish hopen rfl hroot
  | cancel id hopen hroot => exact hs.finish hopen rfl hroot

theorem Moves.count_infos (h : Moves store step store' infos)
    (hs : Steady store) (message : String) :
    infos.count message + store.allLogged.count message =
      store'.allLogged.count message := by
  cases h with
  | still => simp
  | call _ status derivations hlength =>
      rw [← Store.count_allLogged_addRoot message status hs.settling.older]
      exact Store.count_messages_chain message (hs.addRoot status).settling
        (by simp) derivations
  | settle id outcome hopen hroot =>
      exact Store.count_messages_finish message hopen (hs.shallow id) rfl
  | cancel id hopen hroot =>
      exact Store.count_messages_finish message hopen (hs.shallow id) rfl

end Moves

/-! ## Runs -/

theorem steady_run {service : Service} {session : Session} {steps : List Step}
    (h : Orderly service session steps) (hs : Steady session.store) :
    Steady (after service session steps).store := by
  induction steps generalizing session with
  | nil => exact hs
  | cons step rest ih => exact ih h.2 ((take_moves service h.1).steady hs)

/-- In every orderly run from the start, all derived futures follow their
sources. -/
theorem steady_after {service : Service} {environment : Environment}
    {override : Option Bool} {steps : List Step}
    (h : Orderly service (initial environment override) steps) :
    Steady (after service (initial environment override) steps).store :=
  steady_run h steady_empty

theorem keeps_run {service : Service} {session : Session} {steps : List Step}
    (h : Orderly service session steps) :
    session.store.Keeps (after service session steps).store := by
  induction steps generalizing session with
  | nil => exact Store.Keeps.refl _
  | cons step rest ih => exact (take_moves service h.1).keeps.trans (ih h.2)

theorem count_log {service : Service} {session : Session} {steps : List Step}
    (h : Orderly service session steps) (hs : Steady session.store)
    (message : String) :
    (log service session steps).count message +
      session.store.allLogged.count message =
      (after service session steps).store.allLogged.count message := by
  induction steps generalizing session with
  | nil => simp [log]
  | cons step rest ih =>
      have hstep := (take_moves service h.1).count_infos hs message
      have hrest := ih h.2 ((take_moves service h.1).steady hs)
      rw [after_cons]
      simp only [log, List.count_append]
      omega

/-- The messages that an orderly run logs are those that its futures log: none
is missing, none is repeated. -/
theorem log_after {service : Service} {environment : Environment}
    {override : Option Bool} {steps : List Step}
    (h : Orderly service (initial environment override) steps) :
    (log service (initial environment override) steps).Perm
      (after service (initial environment override) steps).store.allLogged := by
  rw [List.perm_iff_count]
  intro message
  rw [← count_log h steady_empty message]
  rfl

end Session
end HostedModules
