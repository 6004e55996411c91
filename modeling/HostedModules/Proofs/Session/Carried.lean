/-
HostedModules.Proofs.Session.Carried — the futures of one call.

A call on the legacy channel holds a row of futures: the one that the channel
handed out, and those derived from it, up to the one that the caller got.

* `Operation.notices` — what an operation logs when the future of the channel
  ends
* `Carries` — the row of futures of a call
* `Makes` — an attempt at a call has added such a row
* `start_makes` — every call that the channel takes does so
* `carries_of_source` — the row is there after any later steps
* `Carries.frame`, `Carries.ended` — no step changes what the caller got but the
  one that ends the first future
-/
import HostedModules.Proofs.Session.Run

namespace HostedModules

open Future

namespace Operation

/-- What is logged when the future that the channel handed out for the operation
ends: a start or stop that finds nothing to do is suppressed with a message. -/
def notices (operation : Operation) (outcome : Outcome) : List String :=
  match operation.suppression?,
    operation.command.derivation.reference outcome with
  | some message, .error failure =>
      if failure.kind = .alreadyInDesiredState then [message] else []
  | _, _ => []

theorem report_stages (operation : Operation) (outcome : Outcome) :
    report operation.stages outcome = operation.notices outcome := by
  show [] ++ report operation.leniency
    (operation.command.derivation.reference outcome) = _
  unfold notices leniency
  cases operation.suppression? with
  | none => rfl
  | some message =>
      cases operation.command.derivation.reference outcome with
      | error failure => exact List.append_nil _
      | ok answer => rfl

end Operation

namespace Session

/-- The futures from `source` on are those of a call of this operation. -/
structure Carries (store : Store) (source : Nat)
    (operation : Operation) : Prop where
  known : source < store.next
  root : store.origin? source = none
  leads : store.Leads source operation.stages

section Carries

variable {store store' : Store} {source : Nat} {operation : Operation}

theorem Carries.keep (h : Carries store source operation)
    (hk : store.Keeps store') :
    Carries store' source operation :=
  ⟨Nat.lt_of_lt_of_le h.known hk.1, (hk.2 source h.known).2.trans h.root,
    h.leads.keep hk h.known⟩

theorem Carries.lt_next (h : Carries store source operation) :
    source + operation.stages.length < store.next := h.leads.lt_next h.known

theorem Carries.outcome? (h : Carries store source operation)
    (hs : Steady store) :
    store.outcome? (source + operation.stages.length) =
      (store.outcome? source).map (Future.conclude operation.stages) :=
  h.leads.outcome? hs.settling

theorem Carries.logged (h : Carries store source operation)
    (hs : Steady store) :
    (List.range' (source + 1) operation.stages.length).flatMap store.logged =
      ((store.outcome? source).map operation.notices).getD [] := by
  rw [h.leads.logged hs.settling]
  cases store.outcome? source with
  | none => rfl
  | some outcome => exact operation.report_stages outcome

end Carries

/-! ## Making a call -/

/-- The attempt added a row of futures for a call of this operation, from the
next number on; the first of them has the outcome that the channel brought at
once, if it did. -/
structure Makes (attempt : Attempt) (store : Store) (operation : Operation)
    (reaction : Channel.Reaction) :
    Prop where
  source : attempt.source = some store.next
  future : attempt.future = .ok (store.next + operation.stages.length)
  carries : Carries attempt.store store.next operation
  steady : Steady attempt.store
  brought : attempt.store.outcome? store.next = reaction.outcome?

theorem outcome?_status (reaction : Channel.Reaction) :
    reaction.status.outcome? = reaction.outcome? := by
  unfold Channel.Reaction.status
  cases reaction.outcome? <;> rfl

/-- A call that the channel takes makes a row of futures of its own. -/
theorem start_makes {service : Service} {circumstances : Circumstances}
    {call : Call} {operation : Operation} {store : Store} (hs : Steady store)
    (h : Dispatch.Reaches service circumstances call operation) :
    Makes (Dispatch.startCall service circumstances call store) store operation
      circumstances.reaction := by
  obtain ⟨hstarts, hsource⟩ := Dispatch.startCall_channel store h
  obtain ⟨added, hadded⟩ :
      ∃ added, store.add ⟨none, circumstances.reaction.status⟩ = added := ⟨_, rfl⟩
  have hstored := hstarts.stored
  rw [hadded] at hstored
  have hnext : added.next = store.next + 1 := by rw [← hadded, Store.next_add]
  have hroot : added.origin? store.next = none := by
    rw [← hadded, Store.origin?_add, if_pos rfl]
  have hfirst : added.SourcesFirst := hadded ▸ hs.settling.older.addRoot _
  have hleads := Store.chain_leads hfirst (by omega)
    (by rw [hnext]; exact hfirst.dependants_newest hnext) operation.stages
  rw [hnext, Nat.add_sub_cancel] at hleads
  refine ⟨hsource, hstarts.future, ?_, ?_, ?_⟩
  · rw [hstored]
    refine ⟨?_, ?_, hleads⟩
    · rw [Store.next_chain]; omega
    · rw [(Store.chain_extends added _).origin? (by omega), hroot]
  · rw [hstored, ← hadded]
    exact hs.call _ operation.length_stages
  · rw [hstored, Store.outcome?_eq, Store.chain_root _ (by omega) hroot,
      ← hadded, Store.cell?_add, if_pos rfl]
    exact outcome?_status _

/-- The caller of a call that the channel takes keeps the last future of the
row. -/
theorem Makes.launched {service : Service} {session : Session} {call : Call}
    {backends : Backends} {operation : Operation}
    (h : Makes (Dispatch.startCall service (session.circumstances backends)
      call session.store) session.store operation backends.reaction) :
    (take service session (.launch call backends)).report =
      .ok (.future (session.store.next + operation.stages.length)) := by
  show Except.bind _ _ = _
  rw [h.future]
  rfl

/-- The future that the caller keeps is the last one of the row. -/
theorem Makes.eq_of_launched {service : Service} {session : Session}
    {call : Call} {backends : Backends} {operation : Operation} {future : Nat}
    (h : Makes (Dispatch.startCall service (session.circumstances backends)
      call session.store) session.store operation backends.reaction)
    (hreport : (take service session (.launch call backends)).report =
      .ok (.future future)) :
    future = session.store.next + operation.stages.length := by
  injection h.launched.symm.trans hreport with hsame
  injection hsame with hsame
  exact hsame.symm

/-- A call for which the channel handed out a future has made a row of futures,
which is there after any later steps. -/
theorem carries_of_source {service : Service} {session : Session} {call : Call}
    {backends : Backends} {source : Nat} {later : List Step}
    (hs : Steady session.store)
    (hsource : (take service session (.launch call backends)).source =
      some source)
    (hlater : Orderly service
      (take service session (.launch call backends)).session later) :
    ∃ operation, source = session.store.next ∧
      Dispatch.Reaches service (session.circumstances backends) call operation ∧
      Makes (Dispatch.startCall service (session.circumstances backends) call
        session.store) session.store
        operation backends.reaction ∧
      Carries (after service session (.launch call backends :: later)).store
        source operation := by
  obtain ⟨rfl, operation, hreaches⟩ := Dispatch.reaches_of_source hsource
  have hmakes := start_makes hs hreaches
  refine ⟨operation, rfl, hreaches, hmakes, ?_⟩
  rw [after_cons]
  exact hmakes.carries.keep (keeps_run hlater)

/-! ## One step on -/

/-- The outcome that the step would give this future. -/
def Step.ending? (id : Nat) : Step → Option Outcome
  | .settle other outcome => if other = id then some outcome else none
  | .cancel other => if other = id then some (.error cancellation) else none
  | _ => none

/-- A step that is not about a future of the channel does not touch it. -/
theorem Moves.root_cell? {store store' : Store} {step : Step}
    {infos : List String} (h : Moves store step store' infos) {id : Nat}
    (hlt : id < store.next) (hroot : store.origin? id = none)
    (hstep : step.ending? id = none) : store'.cell? id = store.cell? id := by
  cases h with
  | still => rfl
  | call _ status derivations =>
      have hadd : (store.add ⟨none, status⟩).origin? id = none := by
        rw [Store.origin?_add, if_neg (by omega), hroot]
      rw [Store.chain_root derivations (by rw [Store.next_add]; omega) hadd,
        Store.cell?_add,
        if_neg (by omega)]
  | settle other outcome hopen =>
      have hne : id ≠ other := by
        rintro rfl
        simp [Step.ending?] at hstep
      exact Store.finish_root _ hroot hne
  | cancel other hopen =>
      have hne : id ≠ other := by
        rintro rfl
        simp [Step.ending?] at hstep
      exact Store.finish_root _ hroot hne

/-- A step that is about an open future of the channel ends it, and runs what is
derived from it. -/
theorem take_ending (service : Service) {session : Session} {step : Step}
    {id : Nat} {outcome : Outcome} (hopen : session.store.isOpen id = true)
    (hroot : session.store.origin? id = none)
    (hstep : step.ending? id = some outcome) :
    ∃ status, status.outcome? = some outcome ∧
      (take service session step).session.store =
        (session.store.finish id status).1 ∧
      Effect.infos (take service session step).effects =
        messages (session.store.finish id status).2 := by
  cases step with
  | settle other given =>
      have hboth : other = id ∧ given = outcome := by
        simpa [Step.ending?] using hstep
      obtain ⟨rfl, rfl⟩ := hboth
      have hset : session.store.set other given =
          .ok (session.store.finish other (.finished given)) :=
        if_pos hopen
      refine ⟨.finished given, rfl, ?_, ?_⟩ <;>
        simp only [take, hset, Effect.infos_ofEvents]
  | cancel other =>
      have hboth : other = id ∧ Except.error cancellation = outcome := by
        simpa [Step.ending?] using hstep
      obtain ⟨rfl, rfl⟩ := hboth
      obtain ⟨cell, hcell, hwaiting⟩ := Store.isOpen_iff.1 hopen
      have horigin : cell.origin = none := by
        simpa [Store.origin?, hcell] using hroot
      have hcancel :
          session.store.cancel other =
          (true, session.store.finish other .cancelled) := by
        obtain ⟨origin, status⟩ := cell
        obtain rfl : origin = none := horigin
        obtain rfl : status = .waiting := hwaiting
        simp only [Store.cancel, hcell]
      refine ⟨.cancelled, rfl, ?_, ?_⟩ <;>
        simp only [take, hcancel, Effect.infos_ofEvents]
  | call call limit backends => simp [Step.ending?] at hstep
  | launch call backends => simp [Step.ending?] at hstep
  | wait id limit => simp [Step.ending?] at hstep
  | optIn answer => simp [Step.ending?] at hstep
  | setVariable name value => simp [Step.ending?] at hstep
  | bind context => simp [Step.ending?] at hstep
  | unbind => simp [Step.ending?] at hstep

section Step

variable {service : Service} {session : Session} {step : Step} {source : Nat}
    {operation : Operation}

/-- A step that is not about the future of the channel, or finds it ended,
leaves the whole call alone. -/
theorem Carries.frame (h : Carries session.store source operation)
    (hs : Steady session.store) (hallow : session.Allows step)
    (hstep : step.ending? source = none ∨
      (session.store.outcome? source).isSome) :
    (take service session step).session.store.cell?
      (source + operation.stages.length) =
      session.store.cell? (source + operation.stages.length) := by
  have hmoves := take_moves service hallow
  have hsame : (take service session step).session.store.outcome? source =
      session.store.outcome? source := by
    rcases hstep with hstep | hended
    · rw [Store.outcome?_eq, hmoves.root_cell? h.known h.root hstep,
        Store.outcome?_eq]
    · obtain ⟨outcome, hended⟩ := Option.isSome_iff_exists.1 hended
      rw [hended]
      exact hmoves.extends.outcome? hended
  refine hmoves.extends.cell? h.lt_next ?_
  rw [(h.keep hmoves.keeps).outcome? (hmoves.steady hs), h.outcome? hs, hsame]

/-- The step that ends the future of the channel ends the whole call. -/
theorem Carries.ended (h : Carries session.store source operation)
    (hs : Steady session.store) {outcome : Outcome}
    (hopen : session.store.outcome? source = none)
    (hstep : step.ending? source = some outcome) :
    (take service session step).session.store.outcome? source = some outcome ∧
      (take service session step).session.store.outcome?
        (source + operation.stages.length) =
        some (Future.conclude operation.stages outcome) ∧
      Effect.infos (take service session step).effects =
        operation.notices outcome := by
  have hisOpen := Store.isOpen_iff_outcome?.2 ⟨h.known, hopen⟩
  obtain ⟨status, hstatus, hstore, hinfos⟩ :=
    take_ending service hisOpen h.root hstep
  have hend : (take service session step).session.store.outcome? source =
      some outcome := by
    rw [hstore]
    exact Store.outcome?_finish_self h.known hstatus
  refine ⟨hend, ?_, ?_⟩
  · have hsteady : Steady (take service session step).session.store := by
      rw [hstore]
      exact hs.finish hisOpen (Status.closed_of_outcome? hstatus) h.root
    have hkeeps : session.store.Keeps
        (take service session step).session.store := by
      rw [hstore]
      exact Store.keeps_finish session.store source status
    rw [(h.keep hkeeps).outcome? hsteady, hend]
    rfl
  · rw [hinfos, h.leads.finish_messages hs.settling hisOpen hstatus
      (Nat.le_trans operation.length_stages (by decide)),
      operation.report_stages]

end Step

/-! ## A small process -/

/-- A service with a channel. -/
def shop : Service := ⟨"shop", true⟩

/-- A process without settings, which has taken no step. -/
def fresh : Session := initial ⟨[]⟩ none

/-- The first call of the small process makes the first row of futures. -/
theorem makes_first (call : Call) (backends : Backends) {operation : Operation}
    (hcheck : call.check = .ok operation)
    (hrequest : ∃ request, operation.request = .ok request)
    (htakes : backends.reaction.takes = true) :
    Makes (Dispatch.startCall shop (fresh.circumstances backends) call
      fresh.store)
      fresh.store operation backends.reaction :=
  start_makes steady_empty ⟨hcheck, rfl, rfl, hrequest, htakes⟩

/-- A first call that the channel holds back is ended by the channel. -/
theorem ended_first {call : Call} {backends : Backends} {operation : Operation}
    (h : Makes (Dispatch.startCall shop (fresh.circumstances backends) call
      fresh.store) fresh.store operation backends.reaction)
    (hheld : backends.reaction.outcome? = none) (outcome : Outcome) :
    Orderly shop fresh [.launch call backends, .settle 0 outcome] ∧
      (take shop fresh (.launch call backends)).source = some 0 ∧
      (after shop fresh [.launch call backends,
        .settle 0 outcome]).store.outcome? 0 =
        some outcome :=
  ⟨⟨True.intro, h.carries.root, True.intro⟩, h.source,
    (h.carries.ended h.steady (h.brought.trans hheld) rfl).1⟩

end Session
end HostedModules
