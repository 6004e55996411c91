/-
HostedModules.Proofs.Operation.Defaults — names that are left out, and what is
filled in for them.

* `Context.IsUpToDot` — a version without its deployment suffix
* `Operation.names`, `Operation.filled` — the names that an operation may leave
  out, and the operation with names in their place
* `resolve_filled`, `resolve_named`, `resolve_unbound` — how names are filled in
* `Call.names`, `Call.filled` — the same of a call
-/
import Mathlib.Data.List.TakeWhile
import HostedModules.Proofs.Dispatch.Exclusive

namespace HostedModules

/-! ## Versions -/

namespace Context

/-- The text is the part of another before its first dot, or all of it if it has
none. -/
def IsUpToDot (version versionId : String) : Prop :=
  '.' ∉ version.toList ∧
    (versionId = version ∨ ∃ suffix, versionId = version ++ "." ++ suffix)

theorem takeWhile_dot {front rest : List Char} (hfront : '.' ∉ front)
    (hrest : rest = [] ∨ ∃ cs, rest = '.' :: cs) :
    (front ++ rest).takeWhile (· ≠ '.') = front := by
  have hpos : ∀ c ∈ front, decide (c ≠ '.') = true := by
    intro c hc
    rw [decide_eq_true_eq]
    rintro rfl
    exact hfront hc
  rw [List.takeWhile_append_of_pos hpos]
  rcases hrest with rfl | ⟨cs, rfl⟩ <;> simp

/-- There is one such text, and it is the version of the context. -/
theorem isUpToDot_iff {version : String} {context : Context} :
    IsUpToDot version context.versionId ↔ version = context.version := by
  constructor
  · rintro ⟨hdot, h⟩
    have hchars : ∃ rest, context.versionId.toList = version.toList ++ rest ∧
        (rest = [] ∨ ∃ cs, rest = '.' :: cs) := by
      rcases h with h | ⟨suffix, h⟩
      · exact ⟨[], by rw [h, List.append_nil], Or.inl rfl⟩
      · exact ⟨'.' :: suffix.toList, by rw [h]; simp, Or.inr ⟨_, rfl⟩⟩
    obtain ⟨rest, hsplit, hrest⟩ := hchars
    rw [Context.version, beforeDot, hsplit, takeWhile_dot hdot hrest,
      String.ofList_toList]
  · rintro rfl
    have hversion :
        context.version.toList = context.versionId.toList.takeWhile (· ≠ '.') :=
        String.toList_ofList
    have hsplit : context.versionId.toList =
        context.version.toList ++ context.versionId.toList.dropWhile
          (· ≠ '.') := by
      rw [hversion, List.takeWhile_append_dropWhile]
    refine ⟨fun hmem => ?_, ?_⟩
    · rw [hversion] at hmem
      simpa using List.mem_takeWhile_imp hmem
    · cases hrest : context.versionId.toList.dropWhile (· ≠ '.') with
      | nil =>
          left
          rw [hrest, List.append_nil] at hsplit
          exact String.toList_injective hsplit
      | cons c cs =>
          have hdot := List.head?_dropWhile_not
            (fun c => decide (c ≠ '.')) context.versionId.toList
          rw [hrest] at hdot
          obtain rfl : c = '.' := by simpa using hdot
          right
          refine ⟨String.ofList cs, String.toList_injective ?_⟩
          rw [hsplit, hrest]
          simp

end Context

/-! ## Names -/

namespace Target

/-- What a name that is left out comes to where no context is bound. -/
def noContext : Failure :=
  .configuration "Operation not allowed outside of a bound execution context"

/-- A name that was given, or else this one. -/
def nameOrText (given : Value) (name : String) : Value :=
  match given with
  | .null => .text name
  | given => given

/-- The target with these names in place of what was left out. -/
def filled (moduleName version : String) (target : Target) : Target :=
  ⟨nameOrText target.moduleName moduleName, nameOrText target.version version⟩

/-- Where a context is bound, giving its names explicitly is the same as leaving
them out. -/
theorem nameOr_nameOrText (given : Value) (name : String)
    (current : Except Failure String) :
    nameOr (nameOrText given name) current = nameOr given (.ok name) := by
  cases given <;> rfl

theorem nameOr_given {given : Value} (h : given ≠ .null)
    (current : Except Failure String) :
    nameOr given current = .ok given := by
  cases given <;> first | rfl | exact absurd rfl h

end Target

namespace Operation

/-- The names that an operation may leave out. -/
def names : Operation → List Value
  | .modules => []
  | .versions moduleName | .defaultVersion moduleName => [moduleName]
  | .countInstances target | .setInstances _ target | .start target
  | .stop target | .versionHostname target
  | .instanceHostname _ target => [target.moduleName, target.version]

/-- The operation with these names in place of what was left out. -/
def filled (moduleName version : String) : Operation → Operation
  | .modules => .modules
  | .versions given => .versions (Target.nameOrText given moduleName)
  | .defaultVersion given =>
      .defaultVersion (Target.nameOrText given moduleName)
  | .countInstances target => .countInstances (target.filled moduleName version)
  | .setInstances count target =>
      .setInstances count (target.filled moduleName version)
  | .start target => .start (target.filled moduleName version)
  | .stop target => .stop (target.filled moduleName version)
  | .versionHostname target =>
      .versionHostname (target.filled moduleName version)
  | .instanceHostname number target =>
      .instanceHostname number (target.filled moduleName version)

/-- Where a context is bound, its names are filled in; given explicitly, they
are the same whatever is bound. -/
theorem resolve_filled (context : Context) (outer bindings : Bindings)
    (operation : Operation) :
    (operation.filled context.moduleId context.version).resolve bindings =
      operation.resolve (context :: outer) := by
  have htarget : ∀ target : Target,
    (target.filled context.moduleId context.version).resolve bindings =
      target.resolve (context :: outer) := by
    intro target
    simp only [Target.resolve, Target.resolveModule, Target.filled,
      Target.nameOr_nameOrText]
    rfl
  cases operation with
  | modules => rfl
  | versions given =>
      exact congrArg (Except.map _) (Target.nameOr_nameOrText _ _ _)
  | defaultVersion given =>
      exact congrArg (Except.map _) (Target.nameOr_nameOrText _ _ _)
  | _ => exact congrArg (Except.map _) (htarget _)

/-- If all names are given, it does not matter what is bound. -/
theorem resolve_named {operation : Operation}
    (h : ∀ name ∈ operation.names, name ≠ .null) (bindings : Bindings) :
    operation.resolve bindings = .ok operation := by
  have htarget : ∀ {target : Target},
    (∀ name ∈ [target.moduleName, target.version], name ≠ .null) →
      target.resolve bindings = .ok target := by
    intro target h
    unfold Target.resolve Target.resolveModule
    rw [Target.nameOr_given (h _ (by simp)),
      Target.nameOr_given (h _ (by simp))]
    rfl
  have hmodule : ∀ {name : Value}, (∀ other ∈ [name], other ≠ .null) →
      Target.resolveModule bindings name = .ok name :=
    fun h => Target.nameOr_given (h _ List.mem_cons_self) _
  cases operation with
  | modules => rfl
  | versions given => rw [resolve, hmodule h]; rfl
  | defaultVersion given => rw [resolve, hmodule h]; rfl
  | _ => rw [resolve, htarget h]; rfl

/-- If a name is left out and no context is bound, it cannot be filled in. -/
theorem resolve_unbound {operation : Operation} (h : .null ∈ operation.names) :
    operation.resolve [] = .error Target.noContext := by
  have hmodule : ∀ {name : Value}, .null ∈ [name] →
      Target.resolveModule [] name = .error Target.noContext := by
    intro name h
    obtain rfl := List.mem_singleton.1 h
    rfl
  have htarget : ∀ {target : Target},
    .null ∈ [target.moduleName, target.version] →
      target.resolve [] = .error Target.noContext := by
    intro target h
    by_cases hgiven : target.moduleName = .null
    · rw [Target.resolve, hgiven]
      rfl
    · have hversion : target.version = .null := by
        rcases List.mem_cons.1 h with h | h
        · exact absurd h.symm hgiven
        · exact (List.mem_singleton.1 h).symm
      rw [Target.resolve, Target.resolveModule, Target.nameOr_given hgiven, hversion]
      rfl
  cases operation with
  | modules => exact nomatch h
  | versions given => rw [resolve, hmodule h]; rfl
  | defaultVersion given => rw [resolve, hmodule h]; rfl
  | _ => rw [resolve, htarget h]; rfl

theorem filled_label (moduleName version : String) (operation : Operation) :
    (operation.filled moduleName version).label = operation.label := by
  cases operation <;> rfl

theorem filled_suppression? (moduleName version : String)
    (operation : Operation) :
    (operation.filled moduleName version).suppression? =
      operation.suppression? := by
  cases operation <;> rfl

end Operation

/-! ## Calls -/

namespace Call

/-- The names that a call may leave out. -/
def names : Call → List Value
  | .modules => []
  | .versions moduleName | .defaultVersion moduleName => [moduleName]
  | .countInstances target | .setInstances _ target | .start target
  | .stop target | .versionHostname target
  | .instanceHostname _ target | .hostname _ target =>
      [target.moduleName, target.version]

/-- The call with these names in place of what was left out. -/
def filled (moduleName version : String) : Call → Call
  | .modules => .modules
  | .versions given => .versions (Target.nameOrText given moduleName)
  | .defaultVersion given =>
      .defaultVersion (Target.nameOrText given moduleName)
  | .countInstances target => .countInstances (target.filled moduleName version)
  | .setInstances count target =>
      .setInstances count (target.filled moduleName version)
  | .start target => .start (target.filled moduleName version)
  | .stop target => .stop (target.filled moduleName version)
  | .versionHostname target =>
      .versionHostname (target.filled moduleName version)
  | .instanceHostname number target =>
      .instanceHostname number (target.filled moduleName version)
  | .hostname number target =>
      .hostname number (target.filled moduleName version)

theorem names_of_check {call : Call} {operation : Operation}
    (h : call.check = .ok operation) :
    operation.names = call.names := by
  cases passes_of_check h <;> rfl

/-- The check of the arguments does not look at names. -/
theorem check_filled (moduleName version : String) (call : Call) :
    (call.filled moduleName version).check =
      call.check.map (Operation.filled moduleName version) := by
  have hinstance : ∀ number target,
    checkInstance number (target.filled moduleName version) =
      (checkInstance number target).map (Operation.filled moduleName version) := by
    intro number target
    unfold checkInstance
    cases Instance.parse number <;> rfl
  cases call with
  | setInstances count target => cases count <;> rfl
  | instanceHostname number target => exact hinstance number target
  | hostname number target =>
      cases number with
      | null => rfl
      | _ => exact hinstance _ target
  | _ => rfl

end Call
end HostedModules
