/-
HostedModules.Future.Store — futures, and futures derived from them.

A future ends once: with a value, with a failure, or by being cancelled.  A
derived future runs as soon as its source has ended.  Futures are numbered in
the order of their making, so a derived future has a higher number than its
source, and the dependants of a future are in the order of their attachment.

* `Future.Derivation.run` — what a derived future makes of the outcome of its
  source: `resolve` within `transform`, and `recover` within
  `suppress_unchanged`
* `Future.stackRoom` — how deeply such runs can be nested
* `Store.settle` — run the dependants that are due, each with all of its own
  before its next sibling
* `Store.set`, `Store.cancel`, `Store.derive`, `Store.submit` — the operations
  (`set_result` and `set_exception`, `cancel`, `transform`, `submit`)
* `Store.wait?` — the outcome of a future as blocking callers see it (`wait`)
* `Future.expiry?` — how a wait fails if its limit, a number of seconds, comes
  before the end of the future; `null` stands for no limit

Not modelled: hooks that call back into the store, the worker threads behind
`submit` and the bound on their number (work is submitted here with the outcome
that it ends with), and what hooks and callers take of the stack themselves.
The room on the stack is that of a caller at its bottom whose hooks need no
more than the runs do.  Just below the limit, where the report of a failure may
still fail itself, only this much is meant to hold: what is beyond the limit
does not run.
-/
import HostedModules.ActionResult

namespace HostedModules
namespace Future

/-! ## Limits -/

/-- How many nanoseconds make a second. -/
def nanosecondsPerSecond : Nat := 1000000000

/-- The longest limit, in nanoseconds: they are counted in 63 bits. -/
def longestWait : Nat := 0x7FFFFFFFFFFFFFFF

/-- How a wait fails if its limit comes before the end of the future; `none` if
it has no limit.

A limit must be a number, and must not be longer than the longest one.  One that
is not positive, the undefined number included, is reached at once. -/
def expiry? : Value → Option Failure
  | .null => none
  | limit =>
    match limit.quantity? with
    | none => some Failure.wrongType
    | some seconds =>
      if (Quantity.ofInt longestWait).less
          (seconds.times nanosecondsPerSecond) then
        some (Failure.unworded .overflow)
      else some (Failure.unworded .timeout)

/-! ## Outcomes and derivations -/

/-- How work ends: with an answer or with a failure. -/
abbrev Outcome := Except Failure Answer

/-- Something that happened while dependants ran. -/
inductive Event where
  /-- The conversion of this future was called. -/
  | converted (id : Nat)
  /-- The recovery of this future was called. -/
  | recovered (id : Nat)
  /-- A diagnostic message was logged. -/
  | logged (message : String)
deriving DecidableEq, Repr

/-- How a future is derived from its source. -/
inductive Derivation where
  /-- Convert an answer, and recover from a failure of the source or of the
  conversion (`transform`). -/
  | transform (convert : Option (Answer → Outcome))
      (recover : Option (Failure → Outcome))
  /-- Take a refusal because of the present state for a success without change,
  and log the message (`suppress_unchanged`). -/
  | suppress (message : String)

/-- The state of a future. -/
inductive Status where
  /-- It has not ended. -/
  | waiting
  | finished (outcome : Outcome)
  | cancelled

/-- The routine that reports a suppressed refusal. -/
def suppressor : ActionResult.Reporter :=
  .routine "appmodules.plumbing.common" "suppress_unchanged"

/-- What a cancelled future fails with. -/
def cancellation : Failure := .unworded .cancelled

/-- The outcome of a future that has ended. -/
def Status.outcome? : Status → Option Outcome
  | .waiting => none
  | .finished outcome => some outcome
  | .cancelled => some (.error cancellation)

/-- The future has not ended. -/
def Status.open : Status → Bool
  | .waiting => true
  | _ => false

namespace Derivation

/-- Call the conversion of future `id` on an answer; without a conversion the
outcome stays as it is. -/
def convertWith (id : Nat) (convert : Option (Answer → Outcome))
    (source : Outcome) : Outcome × List Event :=
  match source, convert with
  | .ok answer, some f => (f answer, [.converted id])
  | outcome, _ => (outcome, [])

/-- Call the recovery of future `id` on a failure, unless it is fatal. -/
def recoverWith (id : Nat) (recover : Option (Failure → Outcome))
    (outcome : Outcome) : Outcome × List Event :=
  match outcome, recover with
  | .error failure, some f =>
    if failure.kind.recoverable then (f failure, [.recovered id])
      else (.error failure, [])
  | outcome, _ => (outcome, [])

/-- The outcome of a suppressed refusal. -/
def suppressed : Outcome := .ok (.action (.unchanged suppressor))

/-- What future `id`, derived in this way, makes of the outcome of its source
(`resolve` within `transform`). -/
def run (id : Nat) (derivation : Derivation) (source : Outcome) :
    Outcome × List Event :=
  match derivation with
  | .transform convert recover =>
    let (converted, first) := convertWith id convert source
    let (outcome, second) := recoverWith id recover converted
    (outcome, first ++ second)
  | .suppress message =>
    match source with
    | .error failure =>
      if failure.kind.isA .alreadyInDesiredState then
        (suppressed, [.logged message])
      else (source, [])
    | .ok _ => (source, [])

end Derivation

/-- A future: where it comes from, and its state. -/
structure Cell where
  /-- The source and the derivation, for a derived future. -/
  origin : Option (Nat × Derivation)
  status : Status

/-- The future has not ended. -/
def Cell.open (cell : Cell) : Bool := cell.status.open

/-- The future is derived from this one. -/
def Cell.dependsOn (source : Nat) (cell : Cell) : Bool :=
  match cell.origin with
  | some (id, _) => id = source
  | none => false

/-! ## The stack

A future that runs ends within its run, and so does all that is derived from
it: runs are nested as deeply as the derivations are.  The stack on which they
are nested is bounded. -/

/-- How many runs can be nested within the first one.  The stack holds a
thousand calls; the caller is one of them, and every run takes three. -/
def stackRoom : Nat := 331

/-- How many more runs could be nested where there is just room to report a
failure. -/
def reportRoom : Nat := 8

/-- A future whose turn it is to run. -/
structure Task where
  /-- How many runs can be nested within its own. -/
  room : Nat
  id : Nat

/-- What is still run after a failure.  The failure climbs until there is room
to report it, and what was waiting for its turn below is passed over. -/
def unwind (rest : List Task) : List Task :=
  rest.dropWhile fun task => task.room < reportRoom

end Future

/-- All futures, by number. -/
structure Store where
  cells : List Future.Cell

namespace Store

open Future

/-- No futures. -/
def empty : Store := ⟨[]⟩

/-- The future of this number. -/
def cell? (store : Store) (id : Nat) : Option Cell := store.cells[id]?

/-- The state of a future. -/
def status? (store : Store) (id : Nat) : Option Status :=
  (store.cell? id).map Cell.status

/-- The outcome of a future that has ended. -/
def outcome? (store : Store) (id : Nat) : Option Outcome :=
  (store.status? id).bind Status.outcome?

/-- The future exists and has not ended. -/
def isOpen (store : Store) (id : Nat) : Bool :=
  ((store.cell? id).map Cell.open).getD false

/-- The number of futures that have not ended. -/
def openCount (store : Store) : Nat := store.cells.countP Cell.open

/-- The futures derived from this one, in the order of their attachment. -/
def dependants (store : Store) (id : Nat) : List Nat :=
  (List.range store.cells.length).filter fun i =>
    ((store.cell? i).map (Cell.dependsOn id)).getD false

/-- The store with one more future, which gets the next number. -/
def add (store : Store) (cell : Cell) : Store := ⟨store.cells ++ [cell]⟩

/-- The number that the next future gets. -/
def next (store : Store) : Nat := store.cells.length

/-- The store with the state of one future replaced. -/
def mark (store : Store) (id : Nat) (status : Status) : Store :=
  match store.cell? id with
  | some cell => ⟨store.cells.set id { cell with status }⟩
  | none => store

/-- Ending an open future leaves one open future less. -/
theorem openCount_mark (store : Store) (id : Nat) (status : Status)
    (hopen : store.isOpen id = true) (hstatus : status.open = false) :
    (store.mark id status).openCount < store.openCount := by
  unfold isOpen cell? at hopen
  cases h : store.cells[id]? with
  | none => simp [h] at hopen
  | some cell =>
    obtain ⟨hlt, hcell⟩ := List.getElem?_eq_some_iff.1 h
    have hc : cell.open = true := by simpa [h] using hopen
    have hpos : 0 < store.cells.countP Cell.open :=
      List.countP_pos_iff.2 ⟨cell, hcell ▸ List.getElem_mem hlt, hc⟩
    have hnew : Cell.open { cell with status } = false := hstatus
    simp only [mark, cell?, h, openCount, List.countP_set hlt, hcell, hc, hnew]
    simp only [if_true, Bool.false_eq_true, if_false]
    omega

/-- What a derived future makes of its source, once that has ended. -/
def due? (store : Store) (id : Nat) : Option (Outcome × List Event) := do
  let cell ← store.cell? id
  let (source, derivation) ← cell.origin
  let outcome ← store.outcome? source
  pure (derivation.run id outcome)

/-! ## The cascade -/

/-- The dependants of a future, in the order of their attachment, with this much
room left for each. -/
def tasks (store : Store) (room id : Nat) : List Task :=
  (store.dependants id).map (Task.mk room)

/-- What is left to run after a future that has ended: all of its dependants,
and then the others.  Without room for its dependants its run fails. -/
def upcoming (store : Store) (task : Task) (rest : List Task) : List Task :=
  match task.room with
  | 0 => unwind rest
  | room + 1 => store.tasks room task.id ++ rest

theorem length_unwind_le (rest : List Task) :
    (unwind rest).length ≤ rest.length :=
  (List.dropWhile_sublist _).length_le

/-- Run the derived futures that are due, in this order, each followed at once
by its own dependants.

A future that was set before its source ended is run as well, but it keeps its
outcome, and its dependants, which have seen that outcome, do not run again.
That it was set already is a failure of its run. -/
def settle (work : List Task) (store : Store) : Store × List Event :=
  match work with
  | [] => (store, [])
  | task :: rest =>
    match store.due? task.id with
    | none => settle rest store
    | some (outcome, events) =>
      if store.isOpen task.id then
        let (final, later) := settle (store.upcoming task rest)
          (store.mark task.id (.finished outcome))
        (final, events ++ later)
      else
        let (final, later) := settle (unwind rest) store
        (final, events ++ later)
termination_by (store.openCount, work.length)
decreasing_by
  · exact Prod.Lex.right _ (Nat.lt_succ_self _)
  · exact Prod.Lex.left _ _
      (openCount_mark store task.id _ (by assumption) rfl)
  · exact Prod.Lex.right _ (Nat.lt_succ_of_le (length_unwind_le rest))

/-- End an open future and run what was waiting for it. -/
def finish (store : Store) (id : Nat) (status : Status) : Store × List Event :=
  settle (store.tasks stackRoom id) (store.mark id status)

/-! ## Operations -/

/-- A new future that nothing has ended yet. -/
def create (store : Store) : Nat × Store :=
  (store.next, store.add ⟨none, .waiting⟩)

/-- A new future for work that has ended (`submit`). -/
def submit (store : Store) (outcome : Outcome) : Nat × Store :=
  (store.next, store.add ⟨none, .finished outcome⟩)

/-- A new future derived from another, which runs at once if its source has
ended (`transform`, `suppress_unchanged`). -/
def derive (store : Store) (source : Nat) (derivation : Derivation) :
    Nat × Store × List Event :=
  (store.next, settle [⟨stackRoom, store.next⟩]
    (store.add ⟨some (source, derivation), .waiting⟩))

/-- End a future from outside (`set_result`, `set_exception`).  A future that
has ended is left alone, and the caller is told. -/
def set (store : Store) (id : Nat) (outcome : Outcome) :
    Except Failure (Store × List Event) :=
  if store.isOpen id then .ok (store.finish id (.finished outcome))
  else .error (Failure.unworded .invalidState)

/-- Cancel a future (`cancel`).  Only a future that nothing has begun to run can
be cancelled, and it stays cancelled. -/
def cancel (store : Store) (id : Nat) : Bool × Store × List Event :=
  match store.cell? id with
  | some ⟨none, .waiting⟩ => (true, store.finish id .cancelled)
  | some ⟨_, .cancelled⟩ => (true, store, [])
  | _ => (false, store, [])

/-- The outcome of a future as soon as it has ended, or what the limit of the
wait makes of one that has not.  There is none while a caller waits on without a
limit. -/
def result? (store : Store) (limit : Value) (id : Nat) : Option Outcome :=
  (store.outcome? id).or ((expiry? limit).map .error)

/-- An outcome as blocking callers see it: failures of this library, of the
set-up, timeouts and fatal ones as they are, everything else wrapped as
unexpected (the handlers of `wait`). -/
def observe : Outcome → Outcome
  | .ok answer => .ok answer
  | .error failure =>
    if failure.kind.isA .timeout then .error failure
    else if failure.kind.isA .cancelled then
      .error (.unexpected (some "Unexpected failure: call was cancelled") failure)
    else if failure.kind.domain || failure.kind.isA .configuration ||
      !failure.kind.recoverable then
      .error failure
    else .error (.unexpected (failure.quoting "Unexpected failure: ") failure)

/-- What a blocking caller sees of a future, unless it waits on (`wait`). -/
def wait? (store : Store) (limit : Value) (id : Nat) : Option Outcome :=
  (store.result? limit id).map observe

end Store
end HostedModules
