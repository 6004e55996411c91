/-
HostedModules.Proofs.Session.Counted — the instance count that a caller is told
on the legacy channel.

The channel answers with any bytes it likes.  A caller gets a number only if the
bytes tell one that an instance count can be; whatever else they hold, and
wherever that is found out, ends as the same kind of failure.

* `Value.IsNumber` — a number or truth value that stands for an integer
* `Channel.TellsCount` — a response tells an instance count
* `Command.countOf_eq_ok_iff`, `Command.convertAnswer_count` — the conversion
  accepts what tells a count
* `Session.count_reported` — what callers get, for all bytes
-/
import Mathlib.Algebra.Group.Int.Defs
import HostedModules.Proofs.Value.Order
import HostedModules.Proofs.Operation.Documented
import HostedModules.Proofs.Session.Waiting
import HostedModules.Proofs.Wire.RoundTrip

namespace HostedModules

open Future

/-! ## Numbers -/

namespace Quantity

/-- A quantity is a whole number exactly if it is the quantity of that
number. -/
theorem integer?_eq_some_iff {quantity : Quantity} {n : Int} :
    quantity.integer? = some n ↔ quantity = ofInt n := by
  have hunit : (unitsPerOne : Int) ≠ 0 := by
    have := unitsPerOne_pos
    omega
  cases quantity with
  | units count =>
      simp only [integer?, ofInt, units.injEq]
      constructor
      · intro h
        split at h
        · next hwhole =>
            obtain rfl := Option.some.inj h
            exact (Int.ediv_mul_cancel (Int.dvd_of_emod_eq_zero hwhole)).symm
        · cases h
      · rintro rfl
        rw [if_pos (Int.mul_emod_left n unitsPerOne),
          Int.mul_ediv_cancel n hunit]
  | _ => constructor <;> intro h <;> cases h

end Quantity

namespace Value

/-- The value is a number or truth value, and stands for exactly this
integer. -/
inductive IsNumber : Value → Int → Prop
  | bool (b : Bool) : IsNumber (.bool b) (if b then 1 else 0)
  | int (n : Int) : IsNumber (.int n) n
  | double {x : Double} {n : Int} (hreading : x.reading = Quantity.ofInt n) :
      IsNumber (.double x) n

theorem isNumber_iff {v : Value} {n : Int} :
    v.IsNumber n ↔ v.quantity? = some (Quantity.ofInt n) := by
  constructor
  · intro h
    cases h with
    | bool b => rfl
    | int n => rfl
    | double hreading => exact congrArg some hreading
  · intro h
    cases v with
    | bool b =>
        obtain rfl := Quantity.ofInt_inj (Option.some.inj h)
        exact .bool b
    | int m =>
        obtain rfl := Quantity.ofInt_inj (Option.some.inj h)
        exact .int m
    | double x => exact .double (Option.some.inj h)
    | _ => exact nomatch h

/-- No value stands for two integers. -/
theorem IsNumber.unique {v : Value} {m n : Int} (hm : v.IsNumber m)
    (hn : v.IsNumber n) : m = n :=
  Quantity.ofInt_inj
    (Option.some.inj ((isNumber_iff.1 hm).symm.trans (isNumber_iff.1 hn)))

end Value

/-! ## Responses -/

namespace Channel

/-- The bytes of a response tell this instance count: they hold a record without
the field, which counts as zero, or with a number there that an instance count
can be. -/
inductive TellsCount (bytes : List UInt8) : Int → Prop
  | absent {response : List (String × Value)}
      (hdecode : decodeResponse bytes = .ok response)
      (hfind : Value.find? "instances" response = none) : TellsCount bytes 0
  | told {response : List (String × Value)} {v : Value} {n : Int}
      (hdecode : decodeResponse bytes = .ok response)
      (hfind : Value.find? "instances" response = some v)
        (hnumber : v.IsNumber n) (hlow : 0 ≤ n)
      (hhigh : n ≤ 2 ^ 31 - 1) : TellsCount bytes n

theorem TellsCount.bounds {bytes : List UInt8} {n : Int}
    (h : TellsCount bytes n) : 0 ≤ n ∧ n ≤ 2 ^ 31 - 1 := by
  cases h with
  | absent => decide
  | told _ _ _ hlow hhigh => exact ⟨hlow, hhigh⟩

namespace Command

/-- A value is taken for the integer that it stands for, within the bounds of an
instance count. -/
theorem countOf_eq_ok_iff {v : Value} {n : Int} :
    countOf v = .ok n ↔ v.IsNumber n ∧ 0 ≤ n ∧ n ≤ 2 ^ 31 - 1 := by
  have hmax : ((maxInstances : Nat) : Int) = 2 ^ 31 - 1 := by decide
  rw [Value.isNumber_iff]
  unfold countOf
  cases hquantity : v.quantity? with
  | none => simp
  | some quantity =>
      simp only [Option.some.injEq, Bool.or_eq_true]
      constructor
      · intro h
        split at h
        · exact nomatch h
        · next hrange =>
            split at h
            · exact nomatch h
            · split at h
              · next m hwhole =>
                  obtain rfl := Except.ok.inj h
                  obtain rfl := Quantity.integer?_eq_some_iff.1 hwhole
                  simp only [Quantity.less_ofInt, decide_eq_true_eq] at hrange
                  exact ⟨rfl, by omega, by omega⟩
              · exact nomatch h
      · rintro ⟨rfl, hlow, hhigh⟩
        have hrange : ¬ ((Quantity.ofInt n).less (Quantity.ofInt 0) = true ∨
            (Quantity.ofInt maxInstances).less (Quantity.ofInt n) = true) := by
          simp only [Quantity.less_ofInt, decide_eq_true_eq]
          omega
        rw [if_neg hrange, if_neg (fun h => nomatch h),
          Quantity.integer?_eq_some_iff.2 rfl]

/-- What is no instance count is complained of in one of three ways. -/
theorem countOf_eq_error {v : Value} {failure : Failure}
    (h : countOf v = .error failure) :
    failure = .wrongType ∨ failure = invalidCount v ∨
      failure = .unworded .wrongValue := by
  unfold countOf at h
  split at h
  · exact .inl (Except.error.inj h).symm
  · split at h
    · exact .inr (.inl (Except.error.inj h).symm)
    · split at h
      · exact .inr (.inr (Except.error.inj h).symm)
      · split at h
        · exact nomatch h
        · exact .inr (.inl (Except.error.inj h).symm)

/-- A response without the field is taken for one with a zero. -/
theorem countIn_eq_ok_iff {response : List (String × Value)} {n : Int} :
    countIn response = .ok n ↔
      Value.find? "instances" response = none ∧ n = 0 ∨
        ∃ v, Value.find? "instances" response = some v ∧ v.IsNumber n ∧ 0 ≤ n ∧
          n ≤ 2 ^ 31 - 1 := by
  unfold countIn
  rw [countOf_eq_ok_iff]
  cases Value.find? "instances" response with
  | none =>
      simp only [Option.getD_none, true_and, reduceCtorEq, false_and,
        exists_false, or_false]
      constructor
      · rintro ⟨hnumber, -⟩
        exact hnumber.unique (.int 0)
      · rintro rfl
        exact ⟨.int 0, by decide⟩
  | some v => simp

variable (moduleName version : Value)

/-- The answer to a question for the instance count is converted to the count
that it tells. -/
theorem convertAnswer_count {bytes : List UInt8} {answer : Answer} :
    (getNumInstances moduleName version).convertAnswer (.value (.bytes bytes)) =
      .ok answer ↔
      ∃ n, answer = .value (.int n) ∧ TellsCount bytes n := by
  show (decodeResponse bytes).bind _ = _ ↔ _
  cases hdecode : decodeResponse bytes with
  | error failure =>
      refine ⟨fun h => (nomatch h), ?_⟩
      rintro ⟨n, -, hdecode' | hdecode'⟩ <;>
        exact nomatch hdecode.symm.trans hdecode'
  | ok response =>
      show (countIn response).map _ = _ ↔ _
      constructor
      · intro h
        cases hcount : countIn response with
        | error failure => rw [hcount] at h; exact nomatch h
        | ok n =>
            rw [hcount] at h
            obtain rfl := Except.ok.inj h
            refine ⟨n, rfl, ?_⟩
            obtain ⟨hfind, rfl⟩ | ⟨v, hfind, hnumber, hlow, hhigh⟩ :=
              countIn_eq_ok_iff.1 hcount
            · exact .absent hdecode hfind
            · exact .told hdecode hfind hnumber hlow hhigh
      · rintro ⟨n, rfl, htells⟩
        have hcount : countIn response = .ok n := by
          refine countIn_eq_ok_iff.2 ?_
          cases htells with
          | absent hdecode' hfind =>
              obtain rfl := Except.ok.inj (hdecode.symm.trans hdecode')
              exact .inl ⟨hfind, rfl⟩
          | told hdecode' hfind hnumber hlow hhigh =>
              obtain rfl := Except.ok.inj (hdecode.symm.trans hdecode')
              exact .inr ⟨_, hfind, hnumber, hlow, hhigh⟩
        rw [hcount]
        rfl

/-- An answer that tells no instance count is complained of in one of four
ways. -/
theorem convertAnswer_count_error {bytes : List UInt8} {failure : Failure}
    (h : (getNumInstances moduleName version).convertAnswer
      (.value (.bytes bytes)) = .error failure) :
    failure = malformed ∨ failure = .wrongType ∨
      failure = .unworded .wrongValue ∨
      ∃ v, failure = invalidCount v := by
  change (decodeResponse bytes).bind _ = _ at h
  cases hdecode : decodeResponse bytes with
  | error cause =>
      rw [hdecode] at h
      obtain rfl := Except.error.inj h
      have hfailed : failed? (.ok (.value (.bytes bytes))) = some cause := by
        simp only [failed?, hdecode]
      rcases failed?_ok hfailed with rfl | rfl | rfl
      · exact .inl rfl
      · exact .inr (.inr (.inl rfl))
      · exact .inr (.inl rfl)
  | ok response =>
      rw [hdecode] at h
      rcases countOf_eq_error
        (Failure.map_eq_error_iff.1 h) with rfl | rfl | rfl
      · exact .inr (.inl rfl)
      · exact .inr (.inr (.inr ⟨_, rfl⟩))
      · exact .inr (.inr (.inl rfl))

end Command
end Channel

/-! ## Callers -/

namespace Operation

/-- A caller that waits for the instance count gets the one that the answer
tells. -/
theorem observe_count (target : Target) {bytes : List UInt8} {n : Int}
    (h : Channel.TellsCount bytes n) :
    Store.observe (Future.conclude (countInstances target).stages
      (.ok (.value (.bytes bytes)))) =
      .ok (.value (.int n)) :=
  observe_converted _ ((Channel.Command.convertAnswer_count _ _).2 ⟨n, rfl, h⟩)

/-- A caller that waits for the instance count is told of an unexpected failure
if the answer tells none. -/
theorem observe_no_count (target : Target) {bytes : List UInt8}
    (h : ∀ n, ¬ Channel.TellsCount bytes n) :
    ∃ raised, Store.observe
      (Future.conclude (countInstances target).stages
        (.ok (.value (.bytes bytes)))) =
      .error raised ∧ raised.kind = .unexpected := by
  cases hconverted :
    (countInstances target).command.convertAnswer (.value (.bytes bytes)) with
  | ok answer =>
      obtain ⟨n, -, htells⟩ :=
        (Channel.Command.convertAnswer_count _ _).1 hconverted
      exact absurd htells (h n)
  | error failure =>
      -- none of these complaints is a code that the remote service reported
      rcases Channel.Command.convertAnswer_count_error _ _
        hconverted with rfl | rfl | rfl | ⟨v, rfl⟩
      · exact observe_unconverted _ hconverted (fun _ h => nomatch h) (.inl rfl)
      · exact observe_unconverted _ hconverted (fun _ h => nomatch h)
          (.inr (.inl rfl))
      · exact observe_unconverted _ hconverted (fun _ h => nomatch h)
          (.inr (.inr rfl))
      · exact observe_unconverted _ hconverted (fun _ h => nomatch h) (.inl rfl)

end Operation

namespace Session

/-- What a caller is to get that asks for the instance count, when the channel
answers with these bytes: the count that they tell, or an unexpected failure if
they tell none, and never a number out of the range of a count. -/
structure CountReported (bytes : List UInt8)
    (report : Except Failure Report) : Prop where
  told : ∀ n, report = .ok (.answer (.value (.int n))) ↔
    Channel.TellsCount bytes n
  untold : (∀ n, ¬ Channel.TellsCount bytes n) → ∃ raised,
    report = .error raised ∧ raised.kind = .unexpected
  range : ∀ told, report = .ok told → ∃ n : Int,
    told = .answer (.value (.int n)) ∧ 0 ≤ n ∧ n ≤ 2 ^ 31 - 1

theorem countReported_observed (target : Target) (bytes : List UInt8) :
    CountReported bytes
      ((Store.observe (Future.conclude (Operation.countInstances target).stages
      (.ok (.value (.bytes bytes))))).map .answer) := by
  by_cases htells : ∃ n, Channel.TellsCount bytes n
  · obtain ⟨n, htells⟩ := htells
    rw [Operation.observe_count target htells]
    refine ⟨fun m => ⟨fun h => ?_, fun hm => ?_⟩, fun h => absurd htells (h n),
      fun told h => ?_⟩
    · simp only [Except.map, Except.ok.injEq, Report.answer.injEq,
        Answer.value.injEq, Value.int.injEq] at h
      exact h ▸ htells
    · have hsame :=
        (Operation.observe_count target hm).symm.trans
          (Operation.observe_count target htells)
      exact congrArg (Except.map Report.answer) hsame.symm
    · exact ⟨n, (Except.ok.inj h).symm, htells.bounds⟩
  · obtain ⟨raised, hraised, hkind⟩ := Operation.observe_no_count target
      fun n hn => htells ⟨n, hn⟩
    rw [hraised]
    exact ⟨fun m => ⟨fun h => (nomatch h), fun hm => absurd ⟨m, hm⟩ htells⟩,
      fun _ => ⟨raised, rfl, hkind⟩,
      fun told h => (nomatch h)⟩

/-- **The instance count that callers get.**  Take any process after any steps,
calls on the legacy channel, and a channel that takes the question for the
instance count of any version.  If it answers at once, a caller that asks and
waits gets the count that the bytes tell, whatever its limit.  If it answers
later, after any further steps, so does a caller that waits for the future of
the question.  With bytes that tell no count, whatever is wrong with them,
either caller gets an unexpected failure. -/
theorem count_reported (service : Service) (environment : Environment)
    (override : Option Bool) (earlier later : List Step) (target : Target)
    (backends : Backends)
    (horderly : Orderly service (initial environment override)
      (earlier ++ .launch (.countInstances target) backends :: later))
    (hdocumented : (Call.countInstances target).Documented)
    (hlegacy : (after service (initial environment override) earlier).optedIn = false)
    (hchannel : service.hasChannel = true)
    (htakes : backends.reaction.takes = true) :
    let before := after service (initial environment override) earlier
    let now := after service (initial environment override)
      (earlier ++ .launch (.countInstances target) backends :: later)
    ∃ source future,
      (take service before (.launch (.countInstances target) backends)).source =
        some source ∧
      (take service before (.launch (.countInstances target) backends)).report =
        .ok (.future future) ∧
      (∀ bytes limit, backends.reaction = .answers bytes →
        CountReported bytes
          (take service before
            (.call (.countInstances target) limit backends)).report) ∧
      ∀ bytes limit,
        now.store.outcome? source = some (.ok (.value (.bytes bytes))) →
        CountReported bytes (take service now (.wait future limit)).report := by
  intro before now
  obtain ⟨hearlier, hlater⟩ := orderly_append.1 horderly
  have hbefore : Steady before.store := steady_after hearlier
  have hnow : Steady now.store := steady_after horderly
  have hcheck : (Call.countInstances target).check =
      .ok (.countInstances target) := rfl
  have hrequest : ∃ request, (Operation.countInstances target).request =
      .ok request := by
    cases hrequest : (Operation.countInstances target).request with
    | ok request => exact ⟨request, rfl⟩
    | error failure =>
        rcases (Call.request_error_iff hdocumented hcheck).1 hrequest with ⟨-,
          n, hn, -⟩ | ⟨-, n, hn, -⟩ <;>
          exact nomatch hn
  have hmakes := start_makes hbefore
    (⟨hcheck, hlegacy, hchannel, hrequest, htakes⟩ :
      Dispatch.Reaches service (before.circumstances backends) _ _)
  have hcarries :
      Carries now.store before.store.next (.countInstances target) := by
    show Carries (after service _ (earlier ++ _)).store _ _
    rw [after_append, after_cons]
    exact hmakes.carries.keep (keeps_run hlater.2)
  have hended : ∀ {store : Store},
    Carries store before.store.next (.countInstances target) →
      Steady store → ∀ bytes limit,
      store.outcome? before.store.next = some (.ok (.value (.bytes bytes))) →
      CountReported bytes
        (awaited limit store
          (before.store.next +
            (Operation.countInstances target).stages.length)) := by
    intro store hcarries hsettling bytes limit hanswered
    have houtcome := hcarries.outcome? hsettling
    rw [hanswered] at houtcome
    rw [awaited_eq houtcome limit]
    exact countReported_observed target bytes
  refine ⟨_, _, hmakes.source, hmakes.launched, ?_, hended hcarries hnow⟩
  intro bytes limit hreaction
  show CountReported bytes (Except.bind _ _)
  rw [hmakes.future]
  refine hended hmakes.carries hmakes.steady bytes limit
    (hmakes.brought.trans ?_)
  show backends.reaction.outcome? = _
  rw [hreaction]
  rfl

/-- A response with the largest instance count. -/
def largestAnswer : List UInt8 :=
  Wire.encodeRecord [("instances", .number ⟨0x41DFFFFFFFC00000⟩)]

theorem tells_largest : Channel.TellsCount largestAnswer (2 ^ 31 - 1) := by
  have hkeyed :
      (Wire.Datum.record [("instances", .number ⟨0x41DFFFFFFFC00000⟩)]).Keyed :=
    ⟨by decide, True.intro, True.intro⟩
  have hdecoded :=
    Wire.decodeRecord_encodeRecord hkeyed (by decide) (by decide +kernel)
  have hresponse : Channel.decodeResponse largestAnswer =
      .ok [("instances", .double ⟨0x41DFFFFFFFC00000⟩)] := by
    rw [Channel.decodeResponse, largestAnswer, hdecoded]
    rfl
  exact .told hresponse rfl (.double (by decide +kernel)) (by decide)
    (Int.le_refl _)

/-- The question for the instance count of the current version, which the
channel answers at once. -/
def askCount : Call := .countInstances ⟨.null, .null⟩

/-- A caller gets the largest instance count. -/
theorem count_reported_largest :
    Orderly shop fresh
      [.launch askCount ⟨.error .wrongType, [], .answers largestAnswer⟩] ∧
      askCount.Documented ∧
      fresh.optedIn = false ∧ shop.hasChannel = true ∧
        Channel.Reaction.takes (.answers largestAnswer) = true ∧
      (take shop fresh
        (.call askCount .null ⟨.error .wrongType, [],
          .answers largestAnswer⟩)).report =
        .ok (.answer (.value (.int (2 ^ 31 - 1)))) := by
  have hdocumented : askCount.Documented :=
    ⟨True.intro, True.intro, True.intro, fun _ _ h => nomatch h⟩
  obtain ⟨source, future, -, -, hcall, -⟩ :=
    count_reported shop ⟨[]⟩ none [] [] ⟨.null, .null⟩
    ⟨.error .wrongType, [], .answers largestAnswer⟩ ⟨True.intro,
      True.intro⟩ hdocumented rfl rfl rfl
  exact ⟨⟨True.intro, True.intro⟩, hdocumented, rfl, rfl, rfl,
    ((hcall largestAnswer .null rfl).told _).2 tells_largest⟩

end Session
end HostedModules
