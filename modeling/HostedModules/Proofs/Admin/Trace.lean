/-
HostedModules.Proofs.Admin.Trace — what administrative work leaves in the trace.

Work is put together from requests and from steps that only compute, so a fact
about the effects of single requests is a fact about the effects of all work.

* `Effect.requests` — the requests in a trace
* `Exchange.Adds` — all that the work adds to the trace is of a certain kind
* `Operation.change?` — the field of a version that an operation changes, and
  what it becomes
* `administer_reads`, `administer_adds` — operations add nothing but what their
  requests add, and those that change nothing only read
-/
import HostedModules.Operation

namespace HostedModules

/-- The requests in a trace. -/
def Effect.requests (effects : List Effect) : List Request :=
  effects.filterMap fun
    | .requested request => some request
    | _ => none

theorem Effect.requests_append (before later : List Effect) :
    Effect.requests (before ++ later) = Effect.requests before ++
      Effect.requests later :=
  List.filterMap_append

namespace Exchange

/-- Whatever the work meets, it adds to the trace effects of this kind only. -/
def Adds {α : Type} (kind : Effect → Prop) (work : Exchange α) : Prop :=
  ∀ dialogue : Dialogue, ∃ added,
    (work dialogue).2.effects = dialogue.effects ++ added ∧
    ∀ effect ∈ added, kind effect

variable {α β : Type} {kind : Effect → Prop}

theorem adds_lift (result : Except Failure α) : Adds kind (lift result) :=
  fun dialogue => ⟨[], (List.append_nil _).symm, by simp⟩

theorem adds_pure (a : α) : Adds kind (pure a : Exchange α) :=
  fun dialogue => ⟨[], (List.append_nil _).symm, by simp⟩

theorem adds_throw (failure : Failure) :
    Adds kind (throw failure : Exchange α) :=
  fun dialogue => ⟨[], (List.append_nil _).symm, by simp⟩

theorem adds_emit {effects : List Effect}
    (h : ∀ effect ∈ effects, kind effect) : Adds kind (emit effects) :=
  fun _ => ⟨effects, rfl, h⟩

theorem bind_of_error {work : Exchange α} {next : α → Exchange β}
    {dialogue after : Dialogue} {failure : Failure}
    (h : work dialogue = (.error failure, after)) :
    (work >>= next) dialogue = (.error failure, after) := by
  simp only [bind, ExceptT.bind, ExceptT.mk, StateT.bind, h]
  rfl

theorem bind_of_ok {work : Exchange α} {next : α → Exchange β}
    {dialogue after : Dialogue} {a : α} (h : work dialogue = (.ok a, after)) :
    (work >>= next) dialogue = next a after := by
  simp only [bind, ExceptT.bind, ExceptT.mk, StateT.bind, h]
  rfl

theorem adds_bind {work : Exchange α} {next : α → Exchange β}
    (hwork : Adds kind work) (hnext : ∀ a, Adds kind (next a)) :
    Adds kind (work >>= next) := by
  intro dialogue
  obtain ⟨first, hfirst, hkind⟩ := hwork dialogue
  rcases hw : work dialogue with ⟨failure | a, after⟩ <;> rw [hw] at hfirst
  · rw [bind_of_error hw]
    exact ⟨first, hfirst, hkind⟩
  · obtain ⟨second, hsecond, hkind'⟩ := hnext a after
    refine ⟨first ++ second, ?_, fun effect hmem => ?_⟩
    · have hafter : after.effects = dialogue.effects ++ first := hfirst
      rw [bind_of_ok hw, hsecond, hafter, List.append_assoc]
    · exact (List.mem_append.1 hmem).elim (hkind effect) (hkind' effect)

theorem adds_map {work : Exchange α} (f : α → β) (h : Adds kind work) :
    Adds kind (f <$> work) := by
  rw [map_eq_pure_bind]
  exact adds_bind h fun a => adds_pure (f a)

theorem adds_mapFailure {work : Exchange α} (f : Failure → Failure)
    (h : Adds kind work) :
    Adds kind (mapFailure f work) := by
  intro dialogue
  obtain ⟨added, ha, hkind⟩ := h dialogue
  refine ⟨added, ?_, hkind⟩
  rw [← ha]
  unfold mapFailure
  rcases work dialogue with ⟨failure | a, after⟩ <;> rfl

end Exchange

open Exchange

/-! ## Requests -/

namespace Client

variable {kind : Effect → Prop}

/-- All requests of the client leave effects of this kind only. -/
def Requests (client : Client) (kind : Effect → Prop) : Prop :=
  ∀ verb path params body,
    ∀ effect ∈ client.requestEffects verb path params body, kind effect

/-- All requests of the client that read leave effects of this kind only. -/
def Reads (client : Client) (kind : Effect → Prop) : Prop :=
  ∀ path params, ∀ effect ∈ client.requestEffects "GET" path params none,
    kind effect

theorem Requests.reads {client : Client} (h : client.Requests kind) :
    client.Reads kind :=
  fun path params => h "GET" path params none

theorem takeReply_effects (dialogue : Dialogue) :
    dialogue.takeReply.2.effects = dialogue.effects := by
  obtain ⟨replies, effects⟩ := dialogue
  cases replies <;> rfl

theorem adds_send {client : Client} {verb path : String}
    {params : Option (List (String × Value))} {body : Option Value}
    (h : ∀ effect ∈ client.requestEffects verb path params body, kind effect) :
    Adds kind (client.send verb path params body) := by
  intro dialogue
  exact ⟨_, takeReply_effects _, h⟩

theorem collectFrom_effects {client : Client} (h : client.Reads kind)
    (path key : String) (params : List (String × Value)) (found : List Value)
    (effects : List Effect) (replies : List Reply) :
    ∃ added,
      (client.collectFrom path key params found effects replies).2.effects =
      effects ++ added ∧
      ∀ effect ∈ added, kind effect := by
  fun_induction client.collectFrom path key params found effects replies with
  | case1 => exact ⟨_, rfl, h path _⟩
  | case2 => exact ⟨_, rfl, h path _⟩
  | case3 => exact ⟨_, rfl, h path _⟩
  | case4 => exact ⟨_, rfl, h path _⟩
  | case5 params found effects reply rest now page hpage found' token hread ih =>
      obtain ⟨added, ha, hkind⟩ := ih
      refine ⟨client.requestEffects "GET" path (some params) none ++ added, ?_,
        fun effect hmem => ?_⟩
      · rw [ha, List.append_assoc]
      · exact (List.mem_append.1 hmem).elim (h path _ effect) (hkind effect)

theorem adds_collect {client : Client} (h : client.Reads kind)
    (path key : String) :
    Adds kind (client.collect path key) :=
  fun dialogue =>
    collectFrom_effects h path key [] [] dialogue.effects dialogue.replies

theorem adds_version {client : Client} (h : client.Reads kind)
    (project service version view : Value) :
    Adds kind (client.version project service version view) :=
  adds_bind (adds_lift _) fun _ => adds_send (h _ _)

theorem adds_patchVersion {client : Client} (h : client.Requests kind)
    (project service version body mask : Value) :
    Adds kind (client.patchVersion project service version body mask) :=
  adds_bind (adds_lift _) fun _ => adds_send (h _ _ _ _)

end Client

/-! ## Operations -/

namespace Admin

variable {kind : Effect → Prop}

theorem adds_listServices {client : Client} (h : client.Reads kind)
    (project : Value) :
    Adds kind (listServices client project) :=
  adds_bind (adds_mapFailure _ (adds_bind (adds_lift _)
    fun _ => Client.adds_collect h _ _))
    fun _ => adds_lift _

theorem adds_applicationHostname {client : Client} (h : client.Reads kind)
    (project : Value) :
    Adds kind (applicationHostname client project) :=
  adds_bind (adds_mapFailure _ (adds_bind (adds_lift _)
    fun _ => Client.adds_send (h _ _)))
    fun _ => adds_lift _

theorem adds_onlyDefault {client : Client} (h : client.Reads kind)
    (project service : Value) :
    Adds kind (onlyDefault client project service) := by
  refine adds_bind (adds_listServices h project) fun members => ?_
  split
  · split
    · exact adds_pure _
    · exact adds_throw _
  · exact adds_pure _

theorem adds_versionHostname {client : Client} (h : client.Reads kind)
    (project service version : Value) :
    Adds kind (versionHostname client project service version) := by
  refine adds_bind (adds_applicationHostname h project) fun host => ?_
  refine adds_bind (adds_onlyDefault h project service) fun alone => ?_
  split <;> exact adds_lift _

theorem adds_instanceHostname {client : Client} (h : client.Reads kind)
    (project service version number : Value) :
    Adds kind (instanceHostname client project service version number) := by
  refine adds_bind (adds_applicationHostname h project) fun host => ?_
  refine adds_bind (adds_onlyDefault h project service) fun alone => ?_
  split
  · exact adds_bind (adds_lift _) fun _ => adds_lift _
  · exact adds_bind (adds_mapFailure _ (Client.adds_version h _ _ _ _)) fun _ =>
      adds_bind (adds_lift _) fun _ => adds_bind (adds_lift _) fun _ =>
        adds_lift _

end Admin

namespace Operation

/-- The field of a version that an operation changes, by the keys that lead to
it, and what it becomes. -/
def change? : Operation → Option (List String × Value)
  | .setInstances count _ => some (["manualScaling", "instances"], .int count)
  | .start _ => some (["servingStatus"], .text ServingStatus.serving.name)
  | .stop _ => some (["servingStatus"], .text ServingStatus.stopped.name)
  | _ => none

/-- Operations that change nothing add to the trace what reading adds, and
nothing else. -/
theorem administer_reads {kind : Effect → Prop} {client : Client}
    (h : client.Reads kind) (project : Value) {operation : Operation}
    (hchange : operation.change? = none) :
    Adds kind (operation.administer client project) := by
  cases operation with
  | modules => exact adds_map _ (Admin.adds_listServices h project)
  | versions moduleName =>
      exact adds_map _
        (adds_bind (adds_mapFailure _ (adds_bind (adds_lift _) fun _ =>
        Client.adds_collect h _ _)) fun _ => adds_lift _)
  | defaultVersion moduleName =>
      exact adds_map _
        (adds_bind (adds_mapFailure _ (adds_bind (adds_lift _) fun _ =>
        Client.adds_send (h _ _))) fun _ => adds_lift _)
  | countInstances target =>
      exact adds_map _
        (adds_bind (adds_mapFailure _ (Client.adds_version h _ _ _ _))
          fun _ => adds_lift _)
  | versionHostname target =>
      exact adds_map _ (Admin.adds_versionHostname h _ _ _)
  | instanceHostname number target =>
      exact adds_map _ (Admin.adds_instanceHostname h _ _ _ _)
  | _ => exact nomatch hchange

/-- Operations add to the trace what their requests add, and nothing else. -/
theorem administer_adds {kind : Effect → Prop} {client : Client}
    (h : client.Requests kind) (project : Value) (operation : Operation) :
    Adds kind (operation.administer client project) := by
  cases operation with
  | setInstances count target =>
      exact adds_map _ (adds_bind (adds_lift _) fun _ =>
        adds_bind (adds_mapFailure _ (Client.adds_patchVersion h _ _ _ _ _))
          fun _ => adds_pure _)
  | start target =>
      exact adds_map _
        (adds_bind (adds_mapFailure _ (Client.adds_patchVersion h _ _ _ _ _)) fun _ =>
        adds_pure _)
  | stop target =>
      exact adds_map _
        (adds_bind (adds_mapFailure _ (Client.adds_patchVersion h _ _ _ _ _)) fun _ =>
        adds_pure _)
  | _ => exact administer_reads h.reads project rfl

end Operation
end HostedModules
