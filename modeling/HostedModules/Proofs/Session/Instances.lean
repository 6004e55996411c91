/-
HostedModules.Proofs.Session.Instances — how an instance may be named.

The argument is checked before anything else is done, and what is wrong with it
is told in words of this library.  Behind the check only the number is left, so
that no backend can tell two spellings of one number apart.

* `Instance.Denotes` — the number that an argument denotes
* `Instance.Short` — an argument of no more digits than are read and written
* `Instance.parse_eq_ok_iff`, `Instance.kind_of_parse` — what is accepted, and
  how the rest is refused
* `Session.instance_named` — what comes of a call for the hostname of an
  instance
-/
import HostedModules.Proofs.Number.Numerals
import HostedModules.Proofs.Session.Carried
import HostedModules.Proofs.Session.Updates

namespace HostedModules

namespace Instance

/-- The argument denotes this number: it is the number, or a numeral of it. -/
inductive Denotes : Value → Nat → Prop
  | int (n : Nat) : Denotes (.int n) n
  | text {s : String} {n : Nat} (h : Numeral.Denotes s.toList n) :
      Denotes (.text s) n

/-- The argument has no more digits than are read and written. -/
def Short : Value → Prop
  | .text s => s.toList.countP Numeral.isDigit ≤ Numeral.digitLimit
  | argument => argument.writable = true

/-- As what an argument is refused that denotes no number: as a bad one, or as
one of the wrong type. -/
def refusal : Value → Failure.Kind
  | .null | .int _ | .text _ => .argument
  | _ => .wrongType

/-! ## The check -/

theorem checkSign_eq_ok_iff {m : Int} {n : Nat} :
    checkSign m = .ok n ↔ m = n := by
  constructor
  · intro h
    obtain ⟨hsign, rfl⟩ := eq_of_checkSign h
    omega
  · rintro rfl
    rw [checkSign_of_nonneg (Int.natCast_nonneg n), Int.toNat_natCast]

theorem kind_of_checkSign {m : Int} {failure : Failure}
    (h : checkSign m = .error failure) :
    failure.kind = .argument := by
  unfold checkSign at h
  split at h
  · obtain rfl := Except.error.inj h
    rfl
  · exact nomatch h

/-- Of the texts, the numerals are accepted that are short enough, unless their
number is negative. -/
theorem parse_text {s : String} {negative : Bool} {digits : List Char}
    (hread : Numeral.read? s.toList = some (negative, digits))
    (hshort : digits.length ≤ Numeral.digitLimit) :
    parse (.text s) =
      checkSign (Numeral.signed negative (Numeral.ofDigits digits)) := by
  have hnonempty : s.isEmpty = false := by
    rw [Bool.eq_false_iff]
    intro hempty
    obtain rfl := String.isEmpty_iff.1 hempty
    exact nomatch hread
  simp only [parse, hread, hnonempty, if_neg Bool.false_ne_true,
    if_neg (Nat.not_lt.2 hshort)]

theorem parse_no_numeral {s : String} (hread : Numeral.read? s.toList = none) :
    ∃ text, parse (.text s) = .error (.plain .argument text) := by
  simp only [parse, hread]
  split
  · exact ⟨_, rfl⟩
  · exact ⟨_, rfl⟩

section Short

variable {argument : Value} (hshort : Short argument)

include hshort

/-- What is read of a short text is short. -/
theorem Short.length_le {s : String} {negative : Bool} {digits : List Char}
    (hargument : argument = .text s)
    (hread : Numeral.read? s.toList = some (negative, digits)) :
    digits.length ≤ Numeral.digitLimit := by
  subst hargument
  exact Nat.le_trans (Numeral.length_le_of_read? hread) hshort

/-- An argument is accepted exactly if it denotes a number, and as that
number. -/
theorem parse_eq_ok_iff {n : Nat} :
    parse argument = .ok n ↔ Denotes argument n := by
  cases hargument : argument with
  | null => constructor <;> intro h <;> cases h
  | int m =>
      refine (checkSign_eq_ok_iff (m := m)).trans ⟨?_, ?_⟩
      · rintro rfl
        exact .int n
      · intro h
        cases h
        rfl
  | text s =>
      have hdenotes : Denotes (.text s) n ↔ Numeral.Denotes s.toList n := by
        refine ⟨fun h => ?_, .text⟩
        cases h with
        | text h => exact h
      rw [hdenotes, Numeral.denotes_iff]
      cases hread : Numeral.read? s.toList with
      | none =>
          obtain ⟨text, hparse⟩ := parse_no_numeral hread
          simp [hparse]
      | some numeral =>
          obtain ⟨negative, digits⟩ := numeral
          rw [parse_text hread (hshort.length_le hargument hread),
            checkSign_eq_ok_iff]
          constructor
          · exact fun h => ⟨negative, digits, rfl, h.symm⟩
          · rintro ⟨negative', digits', hsame, hn⟩
            obtain ⟨rfl, rfl⟩ := Prod.mk.inj (Option.some.inj hsame)
            exact hn.symm
  | _ =>
      constructor <;> intro h
      · simp only [parse] at h
        cases h
      · cases h

/-- Everything else is refused for what it is. -/
theorem kind_of_parse {failure : Failure}
    (h : parse argument = .error failure) :
    failure.kind = refusal argument := by
  have hmisfit : ∀ {opening}, argument.writable = true →
      Except.error (Failure.misfit opening argument) =
        (.error failure : Except Failure Nat) →
      failure.kind = .wrongType := by
    intro opening hwritable hfailure
    obtain rfl := Except.error.inj hfailure
    rw [Failure.misfit, if_pos hwritable]
    rfl
  cases hargument : argument with
  | null =>
      subst hargument
      obtain rfl := Except.error.inj h
      rfl
  | int m =>
      subst hargument
      exact kind_of_checkSign h
  | text s =>
      rw [hargument] at h
      cases hread : Numeral.read? s.toList with
      | none =>
          obtain ⟨text, hparse⟩ := parse_no_numeral hread
          rw [hparse] at h
          obtain rfl := Except.error.inj h
          rfl
      | some numeral =>
          rw [parse_text hread (hshort.length_le hargument hread)] at h
          exact kind_of_checkSign h
  | _ =>
      subst hargument
      exact hmisfit hshort h

end Short

/-- A sign may stand before a zero, and zeros before a number, but nothing else
may stand beside the digits. -/
example :
    parse (.text "-00") = .ok 0 ∧ (parse (.text "7\n")).isOk = false ∧
      (parse (.text "1_000")).isOk = false :=
  ⟨rfl, rfl, rfl⟩

end Instance

/-! ## Calls -/

namespace Call

/-- The call asks for the hostname of the instance that this argument names. -/
inductive NamesInstance (number : Value) (target : Target) : Call → Prop
  | instance : NamesInstance number target (.instanceHostname number target)
  /-- One that is left out asks for the version instead, but neither zero nor an
  empty text is left out. -/
  | hostname (hgiven : number ≠ .null) :
      NamesInstance number target (.hostname number target)

/-- Behind the check, only the number is left of the argument. -/
theorem NamesInstance.check {number : Value} {target : Target} {call : Call}
    (h : NamesInstance number target call) :
    call.check = (Instance.parse number).map fun n =>
      .instanceHostname n target := by
  cases h with
  | «instance» => rfl
  | hostname hgiven =>
      cases number with
      | null => exact absurd rfl hgiven
      | _ => rfl

end Call

namespace Session

/-- A call whose arguments do not pass their check fails with the complaint, and
changes nothing. -/
theorem take_unchecked (service : Service) (session : Session) {step : Step}
    {call : Call} {backends : Backends}
    (hstep : step.call? = some (call, backends)) {failure : Failure}
    (hcheck : call.check = .error failure) :
    take service session step = ⟨.error failure, none, [], backends.replies,
      session⟩ := by
  have hstart : Dispatch.startCall service (session.circumstances backends) call
    session.store =
      .refused failure session.store [] backends.replies := by
    unfold Dispatch.startCall
    rw [hcheck]
    rfl
  rcases eq_of_call? hstep with ⟨limit, rfl⟩ | rfl
  · rw [take, hstart]
    rfl
  · rw [take, hstart]
    rfl

/-- Two calls with one outcome of their checks are one. -/
theorem startCall_congr {call call' : Call} (h : call'.check = call.check)
    (service : Service) (circumstances : Circumstances) (store : Store) :
    Dispatch.startCall service circumstances call' store =
      Dispatch.startCall service circumstances call store := by
  unfold Dispatch.startCall
  rw [h]

/-- **How an instance may be named.**  An argument is accepted exactly if it is
a number that is not negative, or a text of an optional sign and one or more
ASCII digits that denotes such a number, and it is taken for that number.  What
else could be one is refused as a bad argument, and values of other types as
such.  Take any call for the hostname of the instance, in any state of a
process, made in one step with the wait or kept, and whichever backend it would
use.  If the argument denotes no number, the call fails with the complaint and
does nothing at all: the opt-in flag is not asked, no client is built, and
nothing is sent.  If it denotes one, a call that names the same instance in
another way comes to the same in everything: the requests, the log, the replies
that are left over, what the caller gets, and the state of the process. -/
theorem instance_named (service : Service) (session : Session) (number : Value)
    (hshort : Instance.Short number) (target : Target) (backends : Backends) :
    (∀ n, Instance.parse number = .ok n ↔ Instance.Denotes number n) ∧
    (∀ failure, Instance.parse number = .error failure →
      failure.kind = Instance.refusal number) ∧
    ∀ call, call.NamesInstance number target →
      ((¬ ∃ n, Instance.Denotes number n) → ∃ failure,
        failure.kind = Instance.refusal number ∧
        ∀ step, step.call? = some (call, backends) →
          take service session step =
            ⟨.error failure, none, [], backends.replies, session⟩) ∧
      ∀ n, Instance.Denotes number n →
        call.check = .ok (.instanceHostname n target) ∧
        ∀ number' call', Instance.Short number' → Instance.Denotes number' n →
          call'.NamesInstance number' target →
          (∀ limit, take service session (.call call' limit backends) =
            take service session (.call call limit backends)) ∧
          take service session (.launch call' backends) =
            take service session (.launch call backends) := by
  refine ⟨fun n => Instance.parse_eq_ok_iff hshort,
    fun failure => Instance.kind_of_parse hshort, ?_⟩
  intro call hcall
  constructor
  · intro hnone
    cases hparse : Instance.parse number with
    | ok n => exact absurd ⟨n, (Instance.parse_eq_ok_iff hshort).1 hparse⟩ hnone
    | error failure =>
        refine ⟨failure, Instance.kind_of_parse hshort hparse,
          fun step hstep => ?_⟩
        exact take_unchecked service session hstep
          (hcall.check.trans (by rw [hparse]; rfl))
  · intro n hdenotes
    have hcheck : call.check = .ok (.instanceHostname n target) := by
      rw [hcall.check, (Instance.parse_eq_ok_iff hshort).2 hdenotes]
      rfl
    refine ⟨hcheck, fun number' call' hshort' hdenotes' hcall' => ?_⟩
    have hcheck' : call'.check = call.check := by
      rw [hcheck, hcall'.check, (Instance.parse_eq_ok_iff hshort').2 hdenotes']
      rfl
    have hstart :=
      startCall_congr hcheck' service (session.circumstances backends)
        session.store
    refine ⟨fun limit => ?_, ?_⟩
    · simp only [take, hstart]
    · simp only [take, hstart]

/-- The question for the hostname of an instance, named with a sign and with
leading zeros. -/
def askSpelled : Call := .hostname (.text "+007") ⟨.null, .null⟩

/-- The same instance, named by its number. -/
def askNumbered : Call := .instanceHostname (.int 7) ⟨.null, .null⟩

/-- A channel that answers with a response without fields. -/
def emptyAnswer : Backends := ⟨.error .wrongType, [], .answers []⟩

/-- A numeral with a sign and leading zeros comes to the same as the number. -/
theorem instance_named_with_zeros :
    Instance.Short (.text "+007") ∧ Instance.Short (.int 7) ∧
      Instance.Denotes (.text "+007") 7 ∧
      take shop fresh (.call askNumbered .null emptyAnswer) =
        take shop fresh (.call askSpelled .null emptyAnswer) := by
  have hspelled : Instance.Short (.text "+007") := show 3 ≤ 4300 by decide
  have hseven : Numeral.ofDigits ['7'] < Numeral.firstOversized :=
    Numeral.ofDigits_lt rfl (by decide)
  have hnumbered : Instance.Short (.int 7) := by
    simp only [Instance.Short, Value.writable, decide_eq_true_eq]
    exact hseven
  obtain ⟨haccepted, -, hcalls⟩ :=
    instance_named shop fresh (.text "+007") hspelled ⟨.null, .null⟩ emptyAnswer
  have hdenotes : Instance.Denotes (.text "+007") 7 := (haccepted 7).1 rfl
  have hnames : Call.NamesInstance (.text "+007") ⟨.null, .null⟩ askSpelled :=
    .hostname (by simp)
  obtain ⟨-, hsame⟩ := (hcalls askSpelled hnames).2 7 hdenotes
  exact ⟨hspelled, hnumbered, hdenotes,
    (hsame _ _ hnumbered (.int 7) .instance).1 .null⟩

end Session
end HostedModules
