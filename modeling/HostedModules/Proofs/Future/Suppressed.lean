/-
HostedModules.Proofs.Future.Suppressed — wrappers that take "nothing to do" for
a success, one upon the other.

A wrapper turns a refusal into a success, so a wrapper upon it meets no refusal
any more: only the innermost one logs its message.  It logs it when it ends,
once, whatever callers wait for and however often.

* `Future.refused`, `Future.pardoned` — a refusal, and what a wrapper makes of
  an outcome
* `Store.Stack` — wrappers upon each other, the innermost first
* `Store.recorded` — the messages of a run, waits included
* `Store.loggedSince`, `Store.act_messages` — what a future logs by one act
* `Store.suppressed_once` — all wrappers of a stack end alike, and one message
  is logged
-/
import HostedModules.Proofs.Future.Ended
import HostedModules.Proofs.Future.Messages

namespace HostedModules

namespace Future

/-! ## One wrapper -/

/-- The outcome is a refusal because the state that is asked for is there
already. -/
def refused : Outcome → Bool
  | .error failure => failure.kind = .alreadyInDesiredState
  | .ok _ => false

/-- The outcome, with a success without change in place of such a refusal. -/
def pardoned (outcome : Outcome) : Outcome :=
  if refused outcome then .ok (.action (.unchanged suppressor)) else outcome

@[simp] theorem refused_pardoned (outcome : Outcome) :
    refused (pardoned outcome) = false := by
  unfold pardoned
  split
  · rfl
  · next h => exact Bool.eq_false_iff.2 h

@[simp] theorem pardoned_pardoned (outcome : Outcome) :
    pardoned (pardoned outcome) = pardoned outcome :=
  if_neg (by simp)

/-- A wrapper makes the same of an outcome, whatever its message. -/
theorem reference_suppress (message : String) (outcome : Outcome) :
    (Derivation.suppress message).reference outcome = pardoned outcome := by
  cases outcome with
  | ok answer => rfl
  | error failure =>
      by_cases hkind : failure.kind = .alreadyInDesiredState
      · simp only [Derivation.reference, Derivation.converted,
          Derivation.recovery, pardoned, refused, hkind]
        rfl
      · simp [Derivation.reference, Derivation.converted, Derivation.recovery,
          pardoned, refused, hkind]

theorem messages_suppress (message : String) (outcome : Outcome) :
    (Derivation.suppress message).messages outcome = if refused outcome then
      [message] else [] := by
  cases outcome with
  | ok answer => rfl
  | error failure => simp [Derivation.messages, refused]

end Future

namespace Store

open Future

section Wrapper

variable {store : Store} {exempt : Nat → Prop} {source id : Nat}
    {message : String}

/-- A wrapper logs its message if its source was refused. -/
theorem logged_suppress
    (horigin : store.origin? id = some (source, .suppress message)) :
    store.logged id = if (store.outcome? source).any refused then [message]
      else [] := by
  cases hsource : store.outcome? source with
  | none =>
      exact logged_of_not_due
        (by rw [due?_eq, horigin, Option.bind_some, hsource]; rfl)
  | some outcome =>
      rw [logged_eq horigin hsource, messages_suppress, Option.any_some]

/-- A future that is no wrapper logs nothing. -/
theorem logged_of_not_suppress
    (h : ∀ source message, store.origin? id ≠ some (source, .suppress message)) :
    store.logged id = [] := by
  cases horigin : store.origin? id with
  | none => exact logged_of_not_due (by rw [due?_eq, horigin]; rfl)
  | some origin =>
      obtain ⟨source, derivation⟩ := origin
      cases derivation with
      | suppress message => exact absurd horigin (h source message)
      | transform convert recover =>
          cases hsource : store.outcome? source with
          | none =>
              exact logged_of_not_due
                (by rw [due?_eq, horigin, Option.bind_some, hsource]; rfl)
          | some outcome => rw [logged_eq horigin hsource]; rfl

theorem Settling.wrapped (hs : store.Settling exempt [])
    (horigin : store.origin? id = some (source, .suppress message))
    (hfree : ¬ exempt id) :
    store.outcome? id = (store.outcome? source).map pardoned := by
  have hreference : (Derivation.suppress message).reference = pardoned :=
    funext (reference_suppress message)
  rw [hs.followed horigin hfree, hreference]

/-- A wrapper has been run exactly if it has ended, and it has logged its
message if it ended by a refusal. -/
theorem Settling.wrapper (hs : store.Settling exempt []) (hfree : ¬ exempt id)
    (horigin : store.origin? id = some (source, .suppress message) ∨
      store.next ≤ id) :
    (store.due? id).isSome = (store.outcome? id).isSome ∧
      store.logged id =
        if (store.outcome? id).isSome && (store.outcome? source).any refused
          then [message] else [] := by
  rcases horigin with horigin | hlater
  · have hdue : (store.due? id).isSome = (store.outcome? source).isSome := by
      rw [due?_eq, horigin, Option.bind_some, Option.isSome_map]
    rw [hdue, hs.wrapped horigin hfree, Option.isSome_map,
      logged_suppress horigin]
    cases store.outcome? source <;> simp
  · have hdue : store.due? id = none := due?_of_next_le hlater
    rw [logged_of_not_due hdue, hdue, outcome?_eq, cell?_eq_none_iff.2 hlater]
    simp

end Wrapper

/-! ## Stacks -/

/-- Wrappers with their messages, the first upon the source and each other upon
the one before it. -/
def Stack (store : Store) : Nat → List (Nat × String) → Prop
  | _, [] => True
  | source, (id, message) :: rest =>
    store.origin? id = some (source, .suppress message) ∧ Stack store id rest

section Stack

variable {store : Store} {exempt : Nat → Prop} {source : Nat}
    {stack : List (Nat × String)}

/-- All wrappers of a stack end as one wrapper would. -/
theorem Stack.outcome? (h : store.Stack source stack)
    (hs : store.Settling exempt [])
    (hfree : ∀ wrapper ∈ stack, ¬ exempt wrapper.1) :
    ∀ wrapper ∈ stack,
      store.outcome? wrapper.1 = (store.outcome? source).map pardoned := by
  induction stack generalizing source with
  | nil => simp
  | cons first rest ih =>
      obtain ⟨id, message⟩ := first
      have hfirst := hs.wrapped h.1 (hfree (id, message) List.mem_cons_self)
      intro wrapper hmem
      rcases List.mem_cons.1 hmem with rfl | hmem
      · exact hfirst
      · rw [ih h.2 (fun other hother =>
          hfree other (List.mem_cons_of_mem _ hother)) wrapper hmem, hfirst,
            Option.map_map]
        exact congrArg (Option.map · _) (funext pardoned_pardoned)

/-- A wrapper of a stack that has ended has ended as one wrapper would. -/
theorem Stack.ended (h : store.Stack source stack) (ht : store.Truthful exempt)
    (hfree : ∀ wrapper ∈ stack, ¬ exempt wrapper.1) :
    ∀ wrapper ∈ stack, ∀ outcome, store.outcome? wrapper.1 = some outcome →
      (store.outcome? source).map pardoned = some outcome := by
  induction stack generalizing source with
  | nil => simp
  | cons first rest ih =>
      obtain ⟨id, message⟩ := first
      have hfirst : ∀ outcome, store.outcome? id = some outcome →
          (store.outcome? source).map pardoned = some outcome := by
        intro outcome hended
        have := ht id source _ outcome (hfree _ List.mem_cons_self) h.1 hended
        rwa [show (Derivation.suppress message).reference = pardoned from
          funext (reference_suppress message)] at this
      intro wrapper hmem outcome hended
      rcases List.mem_cons.1 hmem with rfl | hmem
      · exact hfirst outcome hended
      · obtain ⟨inner, hinner, rfl⟩ := Option.map_eq_some_iff.1 <|
          ih h.2 (fun other hother =>
            hfree other (List.mem_cons_of_mem _ hother))
            wrapper hmem outcome hended
        obtain ⟨outcome, hsource, rfl⟩ :=
          Option.map_eq_some_iff.1 (hfirst inner hinner)
        rw [hsource, Option.map_some, pardoned_pardoned]

/-- A stack upon a source that was not refused logs nothing. -/
theorem Stack.silent (h : store.Stack source stack)
    (hs : store.Settling exempt [])
    (hfree : ∀ wrapper ∈ stack, ¬ exempt wrapper.1)
    (hsource : (store.outcome? source).any refused = false) :
    ∀ wrapper ∈ stack, store.logged wrapper.1 = [] := by
  induction stack generalizing source with
  | nil => simp
  | cons first rest ih =>
      obtain ⟨id, message⟩ := first
      have hfirst := hs.wrapped h.1 (hfree (id, message) List.mem_cons_self)
      have hpardoned : (store.outcome? id).any refused = false := by
        rw [hfirst]
        cases store.outcome? source <;> simp
      intro wrapper hmem
      rcases List.mem_cons.1 hmem with rfl | hmem
      · rw [logged_suppress h.1, hsource]
        rfl
      · exact ih h.2
          (fun other hother => hfree other (List.mem_cons_of_mem _ hother))
          hpardoned wrapper hmem

end Stack

/-! ## What an act logs -/

/-- What a future logs on the way from one store to a later one: nothing if it
had been run before. -/
def loggedSince (before later : Store) (id : Nat) : List String :=
  if (before.due? id).isSome then [] else later.logged id

section Extends

variable {earlier later : Store} {id : Nat}

/-- What a future has logged it has logged for good. -/
theorem Extends.logged (h : earlier.Extends later) :
    earlier.logged id = [] ∨ earlier.logged id = later.logged id := by
  cases hdue : earlier.due? id with
  | none => exact .inl (logged_of_not_due hdue)
  | some result =>
      exact .inr ((logged_of_due hdue).trans (logged_of_due (h.due? hdue)).symm)

/-- Of any futures, what they have logged later is what they had logged before
and what they logged since. -/
theorem count_loggedSince (message : String) (h : earlier.Extends later)
    (ids : List Nat) :
    (ids.flatMap (loggedSince earlier later)).count message +
      tally message earlier ids =
      tally message later ids := by
  induction ids with
  | nil => rfl
  | cons id rest ih =>
      have hid : (loggedSince earlier later id).count message +
        (earlier.logged id).count message =
          (later.logged id).count message := by
        unfold loggedSince
        cases hdue : earlier.due? id with
        | none => rw [logged_of_not_due hdue]; simp
        | some result =>
            rw [logged_of_due hdue, logged_of_due (h.due? hdue)]; simp
      rw [List.flatMap_cons, List.count_append, tally_cons, tally_cons]
      omega

end Extends

/-- Numbers that no future has yet have logged nothing. -/
theorem tally_range (message : String) (store : Store) {count : Nat}
    (h : store.next ≤ count) :
    tally message store (List.range count) = store.allLogged.count message := by
  induction h with
  | refl => rfl
  | @step count hle ih =>
      rw [List.range_succ, tally_append, tally_cons,
        logged_of_not_due (due?_of_next_le hle), tally_nil, ih]
      rfl

/-- An act for which there is room logs what its futures log by it, in some
order. -/
theorem act_messages {store : Store} (hfirst : store.SourcesFirst) (a : Act)
    (hroom : ∀ op, a.op? = some op → store.RoomFor op) :
    (messages (store.act a).2.2).Perm
      ((List.range (store.act a).2.1.next).flatMap
        (loggedSince store (store.act a).2.1)) := by
  rw [List.perm_iff_count]
  intro message
  have hextends := act_extends store a
  have hall := count_loggedSince message hextends
    (List.range (store.act a).2.1.next)
  rw [tally_range message store hextends.next_le, ← count_allLogged] at hall
  have hstep : (messages (store.act a).2.2).count message +
    store.allLogged.count message =
      (store.act a).2.1.allLogged.count message := by
    cases a with
    | perform op => exact count_messages_step message hfirst op (hroom op rfl)
    | wait id limit => rw [act_wait]; simp
  omega

/-! ## Runs -/

/-- The messages that some acts log, from this store on. -/
def recordedFrom (store : Store) : List Act → List String
  | [] => []
  | a :: rest =>
      messages (store.act a).2.2 ++ recordedFrom (store.act a).2.1 rest

/-- The messages that a run logs, from the empty store on. -/
def recorded (acts : List Act) : List String := recordedFrom .empty acts

theorem recordedFrom_concat (store : Store) (acts : List Act) (a : Act) :
    recordedFrom store (acts ++ [a]) =
      recordedFrom store acts ++
        messages ((acts.foldl (fun store a => (store.act a).2.1) store).act
        a).2.2 := by
  induction acts generalizing store with
  | nil => simp [recordedFrom]
  | cons first rest ih => simp [recordedFrom, ih]

/-- Waits log nothing. -/
theorem recorded_eq (acts : List Act) :
    recorded acts = messages (trace (acts.filterMap Act.op?)) := by
  induction acts using List.reverseRecOn with
  | nil => rfl
  | append_singleton acts a ih =>
      have hconcat :
          recorded (acts ++ [a]) = recorded acts ++
          messages ((afterActs acts).act a).2.2 :=
        recordedFrom_concat .empty acts a
      rw [hconcat, ih, List.filterMap_append]
      cases a with
      | perform op =>
          rw [afterActs_eq]
          show _ = messages (trace (_ ++ [op]))
          rw [trace_concat, messages_append]
          rfl
      | wait id limit =>
          rw [act_wait]
          show _ = messages (trace (_ ++ []))
          rw [List.append_nil]
          exact List.append_nil _

/-- The run sets the future from outside. -/
def SetDirectly (acts : List Act) (id : Nat) : Prop :=
  ∃ outcome, SetBy (acts.filterMap Act.op?) id outcome

theorem SetDirectly.append {acts : List Act} {id : Nat}
    (h : SetDirectly acts id) (later : List Act) :
    SetDirectly (acts ++ later) id := by
  obtain ⟨outcome, earlier, rest, heq, hopen⟩ := h
  exact ⟨outcome, earlier, rest ++ later.filterMap Act.op?, by simp [heq], hopen⟩

/-- There is room on the stack for all that the run sets off. -/
def RoomForAll (acts : List Act) : Prop := Roomy (acts.filterMap Act.op?)

theorem RoomForAll.append {acts later : List Act}
    (h : RoomForAll (acts ++ later)) : RoomForAll acts := by
  rw [RoomForAll, List.filterMap_append] at h
  exact Roomy.append h

/-- There is room for each act of a run for which there is room. -/
theorem RoomForAll.act {earlier later : List Act} {a : Act}
    (h : RoomForAll (earlier ++ a :: later)) {op : Op} (hop : a.op? = some op) :
    (afterActs earlier).RoomFor op := by
  rw [afterActs_eq]
  refine h _ op (later.filterMap Act.op?) ?_
  rw [List.filterMap_append, List.filterMap_cons_some hop]

theorem settling_afterActs {acts : List Act} (hroom : RoomForAll acts) :
    (afterActs acts).Settling (SetDirectly acts) [] := by
  rw [afterActs_eq]
  exact settling_after hroom

theorem truthful_afterActs (acts : List Act) :
    (afterActs acts).Truthful (SetDirectly acts) := by
  rw [afterActs_eq]
  exact truthful_after _

/-! ## One message -/

/-- The futures that are not among these. -/
def others (store : Store) (ids : List Nat) : List Nat :=
  (List.range store.next).filter fun id => id ∉ ids

/-- Of a list without repetition, only one element counts. -/
theorem flatMap_of_only {ids : List Nat} {g : Nat → List String} {only : Nat}
    (hnodup : ids.Nodup) (hnone : ∀ id ∈ ids, id ≠ only → g id = [])
    (habsent : only ∉ ids → g only = []) : ids.flatMap g = g only := by
  induction ids with
  | nil => exact (habsent List.not_mem_nil).symm
  | cons id rest ih =>
      obtain ⟨hnew, hrest⟩ := List.nodup_cons.1 hnodup
      rw [List.flatMap_cons]
      by_cases hid : id = only
      · subst hid
        have hsilent : ∀ other ∈ rest, g other = [] := fun other hmem =>
          hnone other (List.mem_cons_of_mem _ hmem) fun heq => hnew (heq ▸ hmem)
        rw [List.flatMap_eq_nil_iff.2 hsilent, List.append_nil]
      · rw [hnone id List.mem_cons_self hid, List.nil_append]
        exact ih hrest
          (fun other hmem => hnone other (List.mem_cons_of_mem _ hmem))
          fun habsent' =>
          habsent fun hmem =>
            (List.mem_cons.1 hmem).elim (fun heq => hid heq.symm) habsent'

/-- What futures log, if of some of them only one logs anything. -/
theorem flatMap_perm_others (store : Store) {ids : List Nat}
    {g : Nat → List String} {only : Nat} (hmem : only ∈ ids)
    (hnone : ∀ id ∈ ids, id ≠ only → g id = [])
    (hknown : store.next ≤ only → g only = []) :
    ((List.range store.next).flatMap g).Perm
      (g only ++ (store.others ids).flatMap g) := by
  have hsplit :=
    (List.filter_append_perm (fun id => decide (id ∈ ids))
      (List.range store.next)).symm
  have honly : ((List.range store.next).filter
      fun id => decide (id ∈ ids)).flatMap g = g only := by
    refine flatMap_of_only (List.nodup_range.filter _) (fun id hid => ?_)
      fun habsent => hknown ?_
    · exact hnone id (by simpa using (List.mem_filter.1 hid).2)
    · by_contra hlt
      exact habsent (List.mem_filter.2 ⟨List.mem_range.2 (Nat.not_le.1 hlt), by
        simpa using hmem⟩)
  rw [← honly, ← List.flatMap_append]
  have hothers : store.others ids = (List.range store.next).filter fun id =>
    !decide (id ∈ ids) := by
    simp [others]
  rw [hothers]
  exact hsplit.flatMap_right g

/-- What a wrapper of a run logs by one act: its message, if it ends by the act
and its source was refused. -/
theorem loggedSince_wrapper {before later : Store} {exempt : Nat → Prop}
    {source id : Nat} {message : String} (hbefore : before.Settling exempt [])
    (hlater : later.Settling exempt []) (hfree : ¬ exempt id)
    (horigin : before.origin? id = some (source, .suppress message) ∨
      before.next ≤ id)
    (horigin' : later.origin? id = some (source, .suppress message) ∨
      later.next ≤ id) :
    loggedSince before later id =
      if (before.outcome? id).isNone && (later.outcome? id).isSome &&
        (later.outcome? source).any refused then
        [message]
      else [] := by
  rw [loggedSince, (hbefore.wrapper hfree horigin).1,
    (hlater.wrapper hfree horigin').2]
  cases before.outcome? id <;> simp

section Run

variable {acts : List Act} {source innermost : Nat} {message : String}
    {outer : List (Nat × String)}
  (hstack : (afterActs acts).Stack source ((innermost, message) :: outer))
  (hfree : ∀ wrapper ∈ (innermost, message) :: outer,
    ¬ SetDirectly acts wrapper.1)
  (hroom : RoomForAll acts)

include hstack hfree hroom

/-- The wrappers of a run end as one wrapper would. -/
theorem outcome?_wrappers : ∀ id ∈ innermost :: outer.map Prod.fst,
    (afterActs acts).outcome? id =
      ((afterActs acts).outcome? source).map pardoned := by
  intro id hmem
  obtain ⟨wrapper, hwrapper, rfl⟩ :=
    List.mem_map.1 (show id ∈ ((innermost, message) :: outer).map Prod.fst
      from hmem)
  exact hstack.outcome? (settling_afterActs hroom) hfree wrapper hwrapper

/-- Only the innermost wrapper of a run logs anything. -/
theorem logged_wrappers :
    ∀ id ∈ innermost :: outer.map Prod.fst, id ≠ innermost →
    (afterActs acts).logged id = [] := by
  intro id hmem hne
  obtain ⟨wrapper, hwrapper, rfl⟩ :=
    List.mem_map.1 ((List.mem_cons.1 hmem).resolve_left hne)
  have hpardoned : ((afterActs acts).outcome? innermost).any refused = false := by
    rw [outcome?_wrappers hstack hfree hroom innermost List.mem_cons_self]
    cases (afterActs acts).outcome? source <;> simp
  exact hstack.2.silent (settling_afterActs hroom)
    (fun other hother => hfree other (List.mem_cons_of_mem _ hother))
    hpardoned wrapper hwrapper

/-- The log of a run is the message of the innermost wrapper, if the source was
refused, and what the futures outside the stack log. -/
theorem recorded_perm : (recorded acts).Perm
    ((if ((afterActs acts).outcome? source).any refused then [message]
      else []) ++
      ((afterActs acts).others (innermost :: outer.map Prod.fst)).flatMap
        (afterActs acts).logged) := by
  have hall : (recorded acts).Perm
      ((List.range (afterActs acts).next).flatMap (afterActs acts).logged) := by
    rw [recorded_eq, afterActs_eq]
    exact trace_messages hroom
  rw [← logged_suppress hstack.1]
  refine hall.trans
    (flatMap_perm_others _ List.mem_cons_self
      (logged_wrappers hstack hfree hroom) fun hlate => ?_)
  exact absurd (lt_next_of_origin? hstack.1) (Nat.not_lt.2 hlate)

/-- Without other wrappers there is nothing else in the log. -/
theorem recorded_of_only
    (honly : ∀ id source' text,
      (afterActs acts).origin? id = some (source', .suppress text) →
      id ∈ innermost :: outer.map Prod.fst) :
    recorded acts = if ((afterActs acts).outcome? source).any refused then
      [message] else [] := by
  have hothers :
      ((afterActs acts).others (innermost :: outer.map Prod.fst)).flatMap
      (afterActs acts).logged = [] := by
    refine List.flatMap_eq_nil_iff.2 fun id hid => logged_of_not_suppress
      fun source' text horigin => ?_
    have hnot : id ∉ innermost :: outer.map Prod.fst := by
      simpa using (List.mem_filter.1 hid).2
    exact hnot (honly id source' text horigin)
  have hperm := recorded_perm hstack hfree hroom
  rw [hothers, List.append_nil] at hperm
  split at hperm
  · next h => rw [if_pos h]; exact List.perm_singleton.1 hperm
  · next h => rw [if_neg h]; exact List.perm_nil.1 hperm

/-- The message is logged by the act by which the innermost wrapper ends. -/
theorem recorded_act {earlier later : List Act} {a : Act}
    (hacts : acts = earlier ++ a :: later) :
    (messages ((afterActs earlier).act a).2.2).Perm
      ((if ((afterActs earlier).outcome? innermost).isNone &&
        ((afterActs (earlier ++ [a])).outcome? innermost).isSome &&
          ((afterActs (earlier ++ [a])).outcome? source).any refused then
            [message] else []) ++
        ((afterActs (earlier ++ [a])).others
          (innermost :: outer.map Prod.fst)).flatMap
          (loggedSince (afterActs earlier) (afterActs (earlier ++ [a])))) := by
  subst hacts
  have hacts : earlier ++ a :: later = (earlier ++ [a]) ++ later := by simp
  have hpart : ∀ {part rest : List Act}, earlier ++ a :: later = part ++ rest →
      (afterActs part).Extends (afterActs (earlier ++ a :: later)) ∧
        (afterActs part).Settling (SetDirectly (earlier ++ a :: later)) [] := by
    intro part rest heq
    rw [heq] at hroom ⊢
    exact ⟨afterActs_extends part rest,
      (settling_afterActs hroom.append).weaken fun _ hset => hset.append rest⟩
  obtain ⟨hbefore, hsettling⟩ := hpart rfl
  obtain ⟨hafter, hsettling'⟩ := hpart hacts
  have horigin : ∀ {store : Store},
    store.Extends (afterActs (earlier ++ a :: later)) →
      store.origin? innermost = some (source, .suppress message) ∨
        store.next ≤ innermost := by
    intro store hextends
    rcases Nat.lt_or_ge innermost store.next with hlt | hge
    · exact .inl ((hextends.origin? hlt).symm.trans hstack.1)
    · exact .inr hge
  have hmessages := act_messages hsettling.older a fun _ hop => hroom.act hop
  rw [← afterActs_concat] at hmessages
  rw [← loggedSince_wrapper hsettling hsettling'
    (hfree (innermost, message) List.mem_cons_self) (horigin hbefore)
    (horigin hafter)]
  refine hmessages.trans
    (flatMap_perm_others _ List.mem_cons_self (fun id hmem hne => ?_)
      fun hlate => ?_)
  · have hsilent : (afterActs (earlier ++ [a])).logged id = [] :=
      hafter.logged.elim (fun h => h) fun h =>
        h.trans (logged_wrappers hstack hfree hroom id hmem hne)
    rw [loggedSince, hsilent, ite_self]
  · rw [loggedSince, logged_of_not_due (due?_of_next_le hlate), ite_self]

end Run

/-- **Wrappers upon wrappers.**  Take any run, any future and any stack of
wrappers upon it that the run does not set directly, made before or after the
future ended.  A wrapper that has ended has ended with a success without change
if the future was refused because the state that was asked for is there already,
and else with the very outcome of the future.  Waits change nothing and log
nothing, whatever their limits.

If there was room on the stack for all that the run set off, every wrapper ends
with the future, so a stack ends as one wrapper would.  Over the whole run, the
wrappers log the message of the innermost one once if there was such a refusal,
and else nothing; the rest of the log is that of other futures, and if no other
future is a wrapper there is no rest.  The message is logged by the act by which
the innermost wrapper ends, and no act but that one logs anything of the
stack. -/
theorem suppressed_once (acts : List Act) (source innermost : Nat)
    (message : String) (outer : List (Nat × String))
    (hstack : (afterActs acts).Stack source ((innermost, message) :: outer))
    (hfree : ∀ wrapper ∈ (innermost, message) :: outer,
      ¬ SetDirectly acts wrapper.1) :
    let now := afterActs acts
    let ids := innermost :: outer.map Prod.fst
    (∀ id ∈ ids, ∀ outcome, now.outcome? id = some outcome →
      (now.outcome? source).map pardoned = some outcome) ∧
    (∀ id limit, (now.act (.wait id limit)).2 = (now, [])) ∧
    (RoomForAll acts →
      (∀ id ∈ ids, now.outcome? id = (now.outcome? source).map pardoned) ∧
      (∀ id ∈ ids, ∀ outcome limit, now.outcome? source = some outcome →
        (now.act (.wait id limit)).1 = .waited (observe (pardoned outcome))) ∧
      (recorded acts).Perm
        ((if (now.outcome? source).any refused then [message] else []) ++
          (now.others ids).flatMap now.logged) ∧
      ((∀ id source' text, now.origin? id = some (source', .suppress text) →
          id ∈ ids) →
        recorded acts =
          if (now.outcome? source).any refused then [message] else []) ∧
      ∀ earlier a later, acts = earlier ++ a :: later →
        let before := afterActs earlier
        let after := afterActs (earlier ++ [a])
        (messages (before.act a).2.2).Perm
          ((if (before.outcome? innermost).isNone &&
              (after.outcome? innermost).isSome &&
              (after.outcome? source).any refused then [message] else []) ++
            (after.others ids).flatMap (loggedSince before after))) := by
  intro now ids
  have hmem : ∀ id ∈ ids, ∃ wrapper ∈ (innermost, message) :: outer,
      wrapper.1 = id := fun id hid =>
    List.mem_map.1 (show id ∈ ((innermost, message) :: outer).map Prod.fst from hid)
  refine ⟨?_, act_wait now, fun hroom => ?_⟩
  · intro id hid outcome hended
    obtain ⟨wrapper, hwrapper, rfl⟩ := hmem id hid
    exact hstack.ended (truthful_afterActs acts) hfree wrapper hwrapper outcome
      hended
  · have hended := outcome?_wrappers hstack hfree hroom
    refine ⟨hended, ?_, recorded_perm hstack hfree hroom,
      recorded_of_only hstack hfree hroom, ?_⟩
    · intro id hid outcome limit hsource
      have houtcome : now.outcome? id = some (pardoned outcome) := by
        rw [hended id hid]
        exact congrArg (Option.map pardoned) hsource
      simp only [act, wait?, result?, houtcome]
      rfl
    · intro earlier a later hacts
      exact recorded_act hstack hfree hroom hacts

/-- The version that is to be started is running. -/
def running : Outcome :=
  .error (.plain .alreadyInDesiredState
    "Unexpected state for method StartModule")

/-- A future gets a wrapper before it is refused, and another one upon that
afterwards, for which a caller waits. -/
def wrappedTwice : List Act :=
  [.perform .create, .perform (.derive 0 (.suppress "inner")),
    .perform (.set 0 running),
    .perform (.derive 1 (.suppress "outer")), .wait 2 .null]

theorem afterActs_wrappedTwice : afterActs wrappedTwice =
    ⟨[⟨none, .finished running⟩,
      ⟨some (0, .suppress "inner"), .finished (pardoned running)⟩,
      ⟨some (1, .suppress "outer"), .finished (pardoned running)⟩]⟩ := by
  have hfirst :
      (settle [⟨stackRoom, 1⟩]
        ⟨[⟨none, .waiting⟩, ⟨some (0, .suppress "inner"), .waiting⟩]⟩).1 =
      ⟨[⟨none, .waiting⟩, ⟨some (0, .suppress "inner"), .waiting⟩]⟩ := by
    rw [settle_idle [] rfl, settle_nil]
  have hset :
      (settle [⟨stackRoom, 1⟩]
        ⟨[⟨none, .finished running⟩,
          ⟨some (0, .suppress "inner"), .waiting⟩]⟩).1 =
      ⟨[⟨none, .finished running⟩,
        ⟨some (0, .suppress "inner"), .finished (pardoned running)⟩]⟩ := by
    rw [settle_due [] rfl rfl]
    show (settle [] _).1 = _
    rw [settle_nil]
    rfl
  have hsecond : (settle [⟨stackRoom, 2⟩] ⟨[⟨none, .finished running⟩,
      ⟨some (0, .suppress "inner"), .finished (pardoned running)⟩,
        ⟨some (1, .suppress "outer"), .waiting⟩]⟩).1 =
      ⟨[⟨none, .finished running⟩,
        ⟨some (0, .suppress "inner"), .finished (pardoned running)⟩,
        ⟨some (1, .suppress "outer"), .finished (pardoned running)⟩]⟩ := by
    rw [settle_due [] rfl rfl]
    show (settle [] _).1 = _
    rw [settle_nil]
    rfl
  have hwaited :
      afterActs wrappedTwice =
      afterActs [.perform .create, .perform (.derive 0 (.suppress "inner")),
      .perform (.set 0 running), .perform (.derive 1 (.suppress "outer"))] := by
    rw [afterActs_eq, afterActs_eq]
    rfl
  rw [hwaited]
  show (step (step
    (settle [⟨stackRoom, 1⟩]
      ⟨[⟨none, .waiting⟩, ⟨some (0, .suppress "inner"), .waiting⟩]⟩).1
    (.set 0 running)).1 (.derive 1 (.suppress "outer"))).1 = _
  rw [hfirst]
  show (step (settle [⟨stackRoom, 1⟩]
    ⟨[⟨none, .finished running⟩, ⟨some (0, .suppress "inner"), .waiting⟩]⟩).1
    (.derive 1 (.suppress "outer"))).1 = _
  rw [hset]
  exact hsecond

/-- Only the inner wrapper logs its message, and the outer one ends as the inner
one does. -/
theorem suppressed_once_of_two :
    (afterActs wrappedTwice).Stack 0 [(1, "inner"), (2, "outer")] ∧
      recorded wrappedTwice = ["inner"] ∧
      (afterActs wrappedTwice).outcome? 2 =
        some (.ok (.action (.unchanged suppressor))) := by
  have hstack : (afterActs wrappedTwice).Stack 0 [(1, "inner"), (2, "outer")] := by
    rw [afterActs_wrappedTwice]
    exact ⟨rfl, rfl, True.intro⟩
  have hfree : ∀ wrapper ∈ [(1, "inner"), (2, "outer")],
      ¬ SetDirectly wrappedTwice wrapper.1 := by
    rintro wrapper hmem ⟨outcome, hset⟩
    have hset := hset.mem
    simp [wrappedTwice, Act.op?] at hset
    simp at hmem
    grind
  have honly : ∀ id source text, (afterActs wrappedTwice).origin? id =
    some (source, .suppress text) →
      id ∈ [1, 2] := by
    intro id source text horigin
    have hlt := lt_next_of_origin? horigin
    rw [afterActs_wrappedTwice] at horigin hlt
    have hzero : id ≠ 0 := by
      rintro rfl
      exact nomatch horigin
    change id < 3 at hlt
    simp
    omega
  have hroom : RoomForAll wrappedTwice := roomy_of_few (by decide)
  obtain ⟨-, -, hfits⟩ :=
    suppressed_once wrappedTwice 0 1 "inner" [(2, "outer")] hstack hfree
  obtain ⟨hended, -, -, hrecorded, -⟩ := hfits hroom
  have hsource : (afterActs wrappedTwice).outcome? 0 = some running := by
    rw [afterActs_wrappedTwice]
    rfl
  refine ⟨hstack, (hrecorded honly).trans ?_, (hended 2 (by simp)).trans ?_⟩
  · rw [hsource]
    rfl
  · rw [hsource]
    rfl

/-- A stack of 333 wrappers on an open future, which is then refused. -/
def wrappedTooOften : List Act :=
  (toppled 333 (.suppress "running") running).map .perform

theorem afterActs_wrappedTooOften :
    wrappedTooOften.filterMap Act.op? =
      toppled 333 (.suppress "running") running ∧
      afterActs wrappedTooOften =
        after (toppled 333 (.suppress "running") running) := by
  have hops : wrappedTooOften.filterMap Act.op? =
      toppled 333 (.suppress "running") running := by
    rw [wrappedTooOften, List.filterMap_map]
    exact List.filterMap_some
  exact ⟨hops, by rw [afterActs_eq, hops]⟩

/-- The wrappers of a tower are a stack. -/
theorem stack_of_origins {store : Store} {message : String} :
    ∀ {count source : Nat}, (∀ i, source ≤ i → i < source + count →
        store.origin? (i + 1) = some (i, .suppress message)) →
      store.Stack source
        ((List.range' (source + 1) count).map fun id => (id, message))
  | 0, _, _ => True.intro
  | count + 1, source, h =>
    ⟨h source (Nat.le_refl _) (by omega),
      stack_of_origins fun i hle hlt => h i (by omega) (by omega)⟩

/-- Of a stack of 333 wrappers on an open future, the last hangs when that one
is refused. -/
theorem last_of_wrappers_hangs :
    ¬ ∀ (acts : List Act) (source innermost : Nat) (message : String)
      (outer : List (Nat × String)),
      (afterActs acts).Stack source ((innermost, message) :: outer) →
      (∀ wrapper ∈ (innermost, message) :: outer,
        ¬ SetDirectly acts wrapper.1) →
      ∀ id ∈ innermost :: outer.map Prod.fst,
        (afterActs acts).outcome? id =
          ((afterActs acts).outcome? source).map pardoned := by
  intro hended
  obtain ⟨hops, hafter⟩ := afterActs_wrappedTooOften
  obtain ⟨hreach, -⟩ := toppled_reach 333 (.suppress "running") running
  let outer := (List.range' 2 332).map fun id => (id, "running")
  have hstack : (afterActs wrappedTooOften).Stack 0 ((1, "running") :: outer) := by
    rw [hafter]
    have hall : Stack _ 0 ((List.range' (0 + 1) (332 + 1)).map _) :=
      stack_of_origins fun i _ hlt => (hreach i (by omega)).1
    exact hall
  have hfree : ∀ wrapper ∈ (1, "running") :: outer,
      ¬ SetDirectly wrappedTooOften wrapper.1 := by
    rintro wrapper hmem ⟨outcome, hset⟩
    rw [hops] at hset
    have hzero := hset.eq_zero
    rcases List.mem_cons.1 hmem with rfl | hmem
    · exact absurd hzero (by decide)
    · obtain ⟨id, hid, rfl⟩ := List.mem_map.1 hmem
      have := (List.mem_range'_1.1 hid).1
      omega
  have hlast : 333 ∈ 1 :: outer.map Prod.fst := by
    simp [outer]
  have hsame := hended wrappedTooOften 0 1 "running" outer hstack hfree 333 hlast
  have hopen := (isOpen_iff_outcome?.1 (hreach 332 (by decide)).2).2
  rw [hafter, hopen, (setBy_toppled _ _ _).outcome?] at hsame
  exact absurd hsame (by simp)

end Store
end HostedModules
