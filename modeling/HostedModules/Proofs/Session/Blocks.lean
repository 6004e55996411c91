/-
HostedModules.Proofs.Session.Blocks — programs that bind contexts in blocks.

A program takes steps, looks the current context up, and runs blocks with a
context, one within the other.  What it does next may depend on all that it was
told before.  Any block may be left with an exception, and whoever runs the
block may handle it or not.

* `Program`, `run` — such programs, and what becomes of one: how it ends, and
  all moments of its run
* `Moment.Scoped` — at a moment, all goes by the innermost block that is open
* `take_bindings` — no step but entering and leaving a block changes what is
  bound
* `blocks_scope` — every moment of every program is like this, and in the end
  nothing more is bound than before
-/
import HostedModules.Proofs.Session.Carried
import HostedModules.Proofs.Session.Defaults

namespace HostedModules
namespace Session

/-! ## Programs -/

/-- The step enters or leaves a block. -/
def Step.binds : Step → Bool
  | .bind _ | .unbind => true
  | _ => false

/-- A program that binds contexts in blocks only. -/
inductive Program where
  /-- It ends, normally or with an exception. -/
  | finish (ending : Except Failure Unit)
  /-- It looks up the current context. -/
  | look (next : Except Failure Context → Program)
  /-- It takes a step that neither enters nor leaves a block. -/
  | act (step : Step) (plain : step.binds = false)
      (next : Except Failure Report → Program)
  /-- It runs a block with a context, and goes on with what comes out of the
  block. -/
  | block (context : Context) (body : Program) (next : Except Failure Unit → Program)

/-- What a program does at a moment. -/
inductive Deed where
  | finishes
  | looks
  | takes (step : Step)
  | enters (context : Context)
  /-- It leaves a block that it entered in this session, and whose body has
  ended like this. -/
  | leaves (entered : Session) (ending : Except Failure Unit)

/-- A moment in the run of a program. -/
structure Moment where
  /-- The contexts of the blocks that are open, the innermost first. -/
  blocks : List Context
  session : Session
  deed : Deed

/-- What has become of a program. -/
structure Ran where
  ending : Except Failure Unit
  session : Session
  moments : List Moment

/-- What comes out of a block, given how leaving it is answered: whoever leaves
may fail, or swallow an exception, and else lets pass what the body ended
with. -/
def Taken.lets (left : Taken) (ending : Except Failure Unit) :
    Except Failure Unit :=
  match left.report with
  | .error failure => .error failure
  | .ok (.flag true) => .ok ()
  | .ok _ => ending

/-- Run a program within some open blocks. -/
def run (service : Service) : Program → List Context → Session → Ran
  | .finish ending, blocks, session =>
      ⟨ending, session, [⟨blocks, session, .finishes⟩]⟩
  | .look next, blocks, session =>
    let rest := run service (next session.bindings.current) blocks session
    { rest with moments := ⟨blocks, session, .looks⟩ :: rest.moments }
  | .act step _ next, blocks, session =>
    let taken := take service session step
    let rest := run service (next taken.report) blocks taken.session
    { rest with moments := ⟨blocks, session, .takes step⟩ :: rest.moments }
  | .block context body next, blocks, session =>
    let inner := run service body (context :: blocks)
      (take service session (.bind context)).session
    let left := take service inner.session .unbind
    let rest := run service (next (left.lets inner.ending)) blocks left.session
    { rest with
      moments := ⟨blocks, session, .enters context⟩ :: inner.moments ++
        ⟨context :: blocks, inner.session, .leaves session inner.ending⟩ ::
          rest.moments }

/-! ## One step -/

/-- No step but entering and leaving a block changes what is bound. -/
theorem take_bindings (service : Service) (session : Session) {step : Step}
    (h : step.binds = false) :
    (take service session step).session.bindings = session.bindings := by
  cases step with
  | bind context => cases h
  | unbind => cases h
  | settle id outcome =>
      simp only [take]
      split <;> rfl
  | _ => rfl

/-- Entering a block binds its context, and nothing else. -/
theorem take_bind (service : Service) (session : Session) (context : Context) :
    (take service session (.bind context)).session = { session with bindings :=
      context :: session.bindings } := rfl

/-- Leaving a block undoes one binding, and nothing else. -/
theorem take_unbind (service : Service) {session : Session} {context : Context}
    {outer : Bindings} (h : session.bindings = context :: outer) :
    (take service session .unbind).session = { session with bindings :=
      outer } := by
  show { session with bindings := session.bindings.tail } = _
  rw [h, List.tail_cons]

/-- Everything passes that the body of a block ended with. -/
theorem lets_unbind (service : Service) (session : Session)
    (ending : Except Failure Unit) :
    (take service session .unbind).lets ending = ending := rfl

/-- A call that leaves names out is the call that gives those of the innermost
context, and for that one it does not matter what is bound. -/
theorem take_filled (service : Service) {session : Session} {step : Step}
    {call : Call} {backends : Backends}
    (hstep : step.call? = some (call, backends))
    (hopted : session.optedIn = true) {context : Context} {outer : Bindings}
    (hbound : session.bindings = context :: outer) (bindings : Bindings) :
    take service { session with bindings }
      (step.withCall (call.filled context.moduleId context.version)) =
      (take service session step).rebound bindings := by
  have hfilled :
      (step.withCall (call.filled context.moduleId context.version)).call? =
      some (call.filled context.moduleId context.version, backends) := by
    rcases eq_of_call? hstep with ⟨limit, rfl⟩ | rfl <;> rfl
  rw [take_rebound service hfilled, take_withCall service hstep]
  · exact Dispatch.startCall_filled service session.store hopted hbound
  · intro operation hcheck _
    rw [Call.check_filled] at hcheck
    obtain ⟨given, -, rfl⟩ := Failure.map_eq_ok.1 hcheck
    rw [Operation.resolve_filled context outer,
      Operation.resolve_filled context outer]

/-! ## Moments -/

/-- What holds at a moment of a program. -/
structure Moment.Scoped (service : Service) (moment : Moment) : Prop where
  /-- The current context is that of the innermost block that is open, and so
  are module and version. -/
  inside : ∀ context outer, moment.blocks = context :: outer →
    moment.session.bindings.current = .ok context ∧
      moment.session.bindings.currentModule = .ok context.moduleId ∧
      ∀ version, Context.IsUpToDot version context.versionId →
        moment.session.bindings.currentVersion = .ok version
  /-- There is none where no block is open. -/
  outside : moment.blocks = [] →
    let missing :=
      Failure.configuration
        "Operation not allowed outside of a bound execution context"
    moment.session.bindings.current = .error missing ∧
      moment.session.bindings.currentModule = .error missing ∧
      moment.session.bindings.currentVersion = .error missing
  /-- Leaving a block restores what was bound when it was entered, changes
  nothing else, and lets pass what the body ended with. -/
  leaves : ∀ entered ending, moment.deed = .leaves entered ending →
    (take service moment.session .unbind).session =
      { moment.session with bindings := entered.bindings } ∧
      (take service moment.session .unbind).lets ending = ending
  /-- A call on the administrative service comes to the same as if it had named
  the module of that context, and its version up to the first dot, wherever it
  names none itself; and then it would not matter what is bound. -/
  calls : ∀ step call backends context outer version,
    moment.deed = .takes step →
    step.call? = some (call, backends) → moment.session.optedIn = true →
      moment.blocks = context :: outer →
    Context.IsUpToDot version context.versionId → ∀ bindings,
      take service { moment.session with bindings }
        (step.withCall (call.filled context.moduleId version)) =
        (take service moment.session step).rebound bindings

/-- All goes by the open blocks if they are what is bound. -/
theorem scoped_of_bound (service : Service) {blocks : List Context}
    {session : Session} (hbound : session.bindings = blocks) {deed : Deed}
    (hleaves : ∀ entered ending, deed = .leaves entered ending → ∃ context,
      session.bindings = context :: entered.bindings) :
    Moment.Scoped service ⟨blocks, session, deed⟩ where
  inside context outer hblocks := by
    rw [hbound, show blocks = _ from hblocks]
    refine ⟨rfl, rfl, fun version hversion => ?_⟩
    obtain rfl := Context.isUpToDot_iff.1 hversion
    rfl
  outside hblocks := by
    rw [hbound, show blocks = _ from hblocks]
    exact ⟨rfl, rfl, rfl⟩
  leaves entered ending hdeed := by
    obtain ⟨context, hentered⟩ := hleaves entered ending hdeed
    exact ⟨take_unbind service hentered, lets_unbind service session ending⟩
  calls step call backends context outer version _ hstep hopted hblocks hversion
    bindings := by
    obtain rfl := Context.isUpToDot_iff.1 hversion
    exact take_filled service hstep hopted (hbound.trans hblocks) bindings

/-! ## Programs -/

/-- As long as the open blocks are what is bound, they stay so, and all moments
go by them. -/
theorem run_scoped (service : Service) :
    ∀ (program : Program) {blocks : List Context} {session : Session},
    session.bindings = blocks →
    (∀ moment ∈ (run service program blocks session).moments,
      moment.Scoped service) ∧
      (run service program blocks session).session.bindings = blocks
  | .finish ending, blocks, session, hbound => by
      simp only [run, List.mem_singleton, forall_eq]
      exact ⟨scoped_of_bound service hbound nofun, hbound⟩
  | .look next, blocks, session, hbound => by
      obtain ⟨hmoments, hend⟩ :=
        run_scoped service (next session.bindings.current) hbound
      simp only [run, List.forall_mem_cons]
      exact ⟨⟨scoped_of_bound service hbound nofun, hmoments⟩, hend⟩
  | .act step plain next, blocks, session, hbound => by
      obtain ⟨hmoments, hend⟩ :=
        run_scoped service (next (take service session step).report)
        ((take_bindings service session plain).trans hbound)
      simp only [run, List.forall_mem_cons]
      exact ⟨⟨scoped_of_bound service hbound nofun, hmoments⟩, hend⟩
  | .block context body next, blocks, session, hbound => by
      -- in the block its context is bound, with what was bound before behind
      -- it, and so it is at its end
      have hentered : (take service session (.bind context)).session.bindings =
          context :: blocks := by
        rw [take_bind, ← hbound]
      have hinner := run_scoped service body hentered
      generalize hbody :
        run service body (context :: blocks)
        (take service session (.bind context)).session = inner
        at hinner
      obtain ⟨hscoped, hstill⟩ := hinner
      have hleft := congrArg Session.bindings (take_unbind service hstill)
      obtain ⟨hmoments, hend⟩ :=
        run_scoped service
          (next ((take service inner.session .unbind).lets inner.ending)) hleft
      simp only [run, hbody, List.cons_append, List.forall_mem_cons,
        List.forall_mem_append]
      refine ⟨⟨scoped_of_bound service hbound nofun, hscoped,
        scoped_of_bound service hstill ?_, hmoments⟩, hend⟩
      rintro entered ending ⟨rfl, rfl⟩
      exact ⟨context, hstill.trans (congrArg _ hbound.symm)⟩

/-- **Contexts are scoped by blocks.**  Run any program in any process, whatever
blocks are open there.  At each moment the current context is that of the
innermost block still open, if there is one.  Leaving a block, whatever its body
ended with, restores what was bound when it was entered, and what the body ended
with goes on to whoever ran the block.  Calls on the administrative service fill
in the module and version of the innermost block that is open when they are
made.  When the program has ended, all is bound as it was at first. -/
theorem blocks_scope (service : Service) (session : Session)
    (program : Program) :
    let ran := run service program session.bindings session
    (∀ moment ∈ ran.moments, moment.Scoped service) ∧
      ran.session.bindings = session.bindings :=
  run_scoped service program rfl

/-- A block within another is left with an exception, and then the current
context is looked up. -/
def nestedBlocks : Program :=
  .block ⟨"web", "v1.1", none⟩
    (.block ⟨"worker", "v2.2", none⟩ (.finish (.error .wrongType)) fun ending =>
      .look fun _ => .finish ending) .finish

/-- After the exception the outer context is current again, and the exception
leaves both blocks. -/
theorem blocks_scope_nested :
    let ran := run shop nestedBlocks [] fresh
    (∃ moment ∈ ran.moments, moment.deed = .looks ∧
        moment.session.bindings.current = .ok ⟨"web", "v1.1", none⟩) ∧
      ran.ending = .error .wrongType ∧ ran.session.bindings = [] := by
  obtain ⟨hscoped, hend⟩ := blocks_scope shop fresh nestedBlocks
  have hlook : ∃ moment ∈ (run shop nestedBlocks [] fresh).moments,
    moment.deed = .looks ∧
      moment.blocks = [⟨"web", "v1.1", none⟩] := by
    simp [run, nestedBlocks]
  obtain ⟨moment, hmem, hdeed, hblocks⟩ := hlook
  exact ⟨⟨moment, hmem, hdeed, ((hscoped moment hmem).inside _ _ hblocks).1⟩,
    rfl, hend⟩

end Session
end HostedModules
