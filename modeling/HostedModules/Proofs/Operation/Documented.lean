/-
HostedModules.Proofs.Operation.Documented — calls with arguments of the types
that the operations ask for.

Names are texts, counts are integers, and an instance is named by either; all
but the count may be left out.  What goes wrong with such arguments is told in
the words of this library, unless a number has too many digits or is too large
for a request.

* `Failure.Kind.crosses` — the kinds that callers of the facade are told of
* `Call.Documented` — the arguments have the types that the operations ask for
* `Call.check_error`, `Operation.crosses_of_resolve` — how arguments and
  defaults are refused
* `Call.request_error_iff` — when the request of a call cannot be put into bytes
-/
import Mathlib.Algebra.Group.Nat.Defs
import HostedModules.Proofs.Channel.Failures
import HostedModules.Proofs.Dispatch.Exclusive

namespace HostedModules

namespace Failure.Kind

/-- Callers of the facade are told of failures of this kind: those of this
library, of the set-up, timeouts, and those that end the process. -/
def crosses (kind : Kind) : Bool :=
  kind.isA .modules || kind.isA .configuration || kind.isA .timeout ||
    !kind.recoverable

end Failure.Kind

/-! ## Numerals -/

namespace Numeral

theorem foldl_digits_lt :
    ∀ {digits : List Char} {n k : Nat}, digits.all isDigit = true → n < 10 ^ k →
    digits.foldl (fun n c => 10 * n + (c.toNat - '0'.toNat)) n <
      10 ^ (k + digits.length)
  | [], _, _, _, h => h
  | c :: rest, n, k, hdigits, h => by
      rw [List.all_cons, Bool.and_eq_true] at hdigits
      have hc : c.toNat ≤ 57 := by
        have hdigit := hdigits.1
        simp only [isDigit, Bool.and_eq_true, decide_eq_true_eq] at hdigit
        exact hdigit.2
      have hnext : 10 * n + (c.toNat - '0'.toNat) < 10 ^ (k + 1) := by
        have hzero : '0'.toNat = 48 := rfl
        rw [Nat.pow_succ]
        omega
      have hrest := foldl_digits_lt hdigits.2 hnext
      rw [List.foldl_cons, List.length_cons,
        show k + (rest.length + 1) = k + 1 + rest.length by omega]
      exact hrest

/-- A numeral that is read is short enough to be written again. -/
theorem ofDigits_lt {digits : List Char} (hdigits : digits.all isDigit = true)
    (hlength : digits.length ≤ digitLimit) :
    ofDigits digits < firstOversized := by
  have hlt := foldl_digits_lt hdigits (show 0 < 10 ^ 0 from Nat.one_pos)
  rw [Nat.zero_add] at hlt
  unfold firstOversized
  -- the limit is no number here, lest the power be computed
  generalize digitLimit = limit at hlength ⊢
  exact Nat.lt_of_lt_of_le hlt (Nat.pow_le_pow_right (by decide) hlength)

theorem all_isDigit_of_read? {cs digits : List Char} {negative : Bool}
    (h : read? cs = some (negative, digits)) :
    digits.all isDigit = true := by
  rcases hsplit : splitSign cs with ⟨sign, rest⟩
  simp only [read?, hsplit] at h
  split at h
  · exact nomatch h
  · next hvalid =>
      obtain ⟨-, rfl⟩ := Prod.mk.inj (Option.some.inj h)
      simp only [Bool.or_eq_true, Bool.not_eq_true', not_or, Bool.not_eq_false] at hvalid
      exact hvalid.2

end Numeral

namespace Instance

theorem checkSign_of_nonneg {m : Int} (h : 0 ≤ m) : checkSign m = .ok m.toNat :=
  if_neg (by omega)

theorem eq_of_checkSign {m : Int} {n : Nat} (h : checkSign m = .ok n) :
    0 ≤ m ∧ n = m.toNat := by
  unfold checkSign at h
  split at h
  · exact nomatch h
  · exact ⟨by omega, (Except.ok.inj h).symm⟩

/-- The number of an instance that is given as a text can be written. -/
theorem lt_of_parse_text {s : String} {n : Nat} (h : parse (.text s) = .ok n) :
    n < Numeral.firstOversized := by
  simp only [parse] at h
  split at h
  · exact nomatch h
  · split at h
    · exact nomatch h
    · next negative digits hread =>
        split at h
        · exact nomatch h
        · next hshort =>
            obtain ⟨hsign, rfl⟩ := eq_of_checkSign h
            have hlt := Numeral.ofDigits_lt (Numeral.all_isDigit_of_read? hread)
              (Nat.not_lt.1 hshort)
            unfold Numeral.signed at hsign ⊢
            split at hsign
            · next hnegative =>
                rw [if_pos hnegative]
                omega
            · next hnegative =>
                rw [if_neg hnegative]
                omega

end Instance

/-! ## Arguments of the documented types -/

namespace Call

/-- A name is a text, or left out. -/
def Name : Value → Prop
  | .null | .text _ => True
  | _ => False

/-- The number of an instance is an integer or a text, or left out. -/
def Number : Value → Prop
  | .null | .int _ | .text _ => True
  | _ => False

/-- The arguments have the types that the operations ask for. -/
structure Documented (call : Call) : Prop where
  moduleName : Name call.target.moduleName
  version : Name call.target.version
  number : Number call.number
  count : ∀ count target, call = .setInstances count target →
    ∃ n, count = .int n

/-- The argument names an instance by a numeral that is too long to be read. -/
def LongNumeral (number : Value) : Prop :=
  ∃ s negative digits, number = .text s ∧
    Numeral.read? s.toList = some (negative, digits) ∧
    Numeral.digitLimit < digits.length

theorem parse_error {number : Value} {failure : Failure}
    (hnumber : Number number) (h : Instance.parse number = .error failure) :
    failure.kind.crosses = true ∨ failure = .unworded .wrongValue ∧
      LongNumeral number := by
  have hsign : ∀ {m : Int}, Instance.checkSign m = .error failure →
      failure.kind.crosses = true := by
    intro m hm
    unfold Instance.checkSign at hm
    split at hm
    · obtain rfl := Except.error.inj hm
      rfl
    · exact nomatch hm
  cases number with
  | null =>
      obtain rfl := Except.error.inj h
      exact Or.inl rfl
  | int n => exact Or.inl (hsign h)
  | text s =>
      simp only [Instance.parse] at h
      split at h
      · obtain rfl := Except.error.inj h
        exact Or.inl rfl
      · split at h
        · obtain rfl := Except.error.inj h
          exact Or.inl rfl
        · next negative digits hread =>
            split at h
            · next hlong =>
                obtain rfl := Except.error.inj h
                exact Or.inr ⟨rfl, s, negative, digits, rfl, hread, hlong⟩
            · exact Or.inl (hsign h)
  | _ => exact hnumber.elim

theorem parse_long {number : Value} (h : LongNumeral number) :
    Instance.parse number = .error (.unworded .wrongValue) := by
  obtain ⟨s, negative, digits, rfl, hread, hlong⟩ := h
  have hnonempty : ¬ s.isEmpty = true := by
    intro hempty
    obtain rfl := String.isEmpty_iff.1 hempty
    exact nomatch hread
  simp only [Instance.parse, hread, if_neg hnonempty, if_pos hlong]

/-- Arguments of the documented types are refused for a reason that callers are
told of, or because the numeral of an instance is too long. -/
theorem check_error {call : Call} {failure : Failure}
    (hdocumented : call.Documented) (h : call.check = .error failure) :
    failure.kind.crosses = true ∨ failure = .unworded .wrongValue ∧
      LongNumeral call.number := by
  have hinstance : ∀ {number target}, Number number →
    checkInstance number target = .error failure →
      failure.kind.crosses = true ∨ failure = .unworded .wrongValue ∧
        LongNumeral number := by
    intro number target hnumber hcheck
    unfold checkInstance at hcheck
    cases hparse : Instance.parse number with
    | error cause =>
        rw [hparse] at hcheck
        obtain rfl := Except.error.inj hcheck
        exact parse_error hnumber hparse
    | ok n => rw [hparse] at hcheck; exact nomatch hcheck
  cases call with
  | setInstances count target =>
      obtain ⟨n, rfl⟩ := hdocumented.count count target rfl
      exact nomatch h
  | instanceHostname number target => exact hinstance hdocumented.number h
  | hostname number target =>
      cases number with
      | null => exact nomatch h
      | _ => exact hinstance hdocumented.number h
  | _ => exact nomatch h

/-- A number that is not negative, and a count that is an integer, are always
accepted. -/
theorem check_of_number {call : Call} {n : Int} (h : call.number = .int n)
    (hsign : 0 ≤ n) :
    ∃ operation, call.check = .ok operation := by
  have hinstance : ∀ target, checkInstance (.int n) target =
      .ok (.instanceHostname n.toNat target) := by
    intro target
    show (Instance.checkSign n).map _ = _
    rw [Instance.checkSign_of_nonneg hsign]
    rfl
  cases call with
  | instanceHostname number target =>
      obtain rfl : number = .int n := h
      exact ⟨_, hinstance target⟩
  | hostname number target =>
      obtain rfl : number = .int n := h
      exact ⟨_, hinstance target⟩
  | _ => exact nomatch h

theorem check_of_count {call : Call} {n : Int} (h : call.count = .int n) :
    ∃ operation, call.check = .ok operation := by
  cases call with
  | setInstances count target =>
      obtain rfl : count = .int n := h
      exact ⟨_, rfl⟩
  | _ => exact nomatch h

theorem check_long {call : Call} (h : LongNumeral call.number) :
    call.check = .error (.unworded .wrongValue) := by
  have hinstance : ∀ {number target}, LongNumeral number →
      checkInstance number target = .error (.unworded .wrongValue) := by
    intro number target hlong
    unfold checkInstance
    rw [parse_long hlong]
    rfl
  have hnull : ¬ LongNumeral .null := fun ⟨_, _, _, hnumber, _⟩ =>
    nomatch hnumber
  cases call with
  | instanceHostname number target => exact hinstance h
  | hostname number target =>
      cases number with
      | null => exact absurd h hnull
      | _ => exact hinstance h
  | _ => exact absurd h hnull

end Call

/-! ## Requests of the documented types -/

namespace Wire.Datum

/-- Fields that can fail in one way only fail in that way, and if one of them
does. -/
theorem ofFields?_error_iff {only : Failure} :
    ∀ {fields : List (String × Value)} {failure : Failure},
    (∀ field ∈ fields, ∀ cause, ofValue? field.2 = .error cause →
      cause = only) →
    (ofFields? fields = .error failure ↔
      failure = only ∧ ∃ field ∈ fields, ofValue? field.2 = .error only)
  | [], failure, _ => by simp [ofFields?]
  | (key, v) :: rest, failure, h => by
      have hrest : ofFields? rest = .error failure ↔ _ :=
        ofFields?_error_iff fun field hmem =>
          h field (List.mem_cons_of_mem _ hmem)
      rw [ofFields?]
      cases hv : ofValue? v with
      | error cause =>
          obtain rfl := h (key, v) List.mem_cons_self cause hv
          constructor
          · intro hfail
            exact ⟨(Except.error.inj hfail).symm, (key, v), List.mem_cons_self, hv⟩
          · rintro ⟨rfl, -⟩
            rfl
      | ok d =>
          show (ofFields? rest).map ((key, d) :: ·) = .error failure ↔ _
          rw [Failure.map_eq_error_iff, hrest]
          refine and_congr_right fun _ => ⟨?_, ?_⟩
          · rintro ⟨field, hmem, hfield⟩
            exact ⟨field, List.mem_cons_of_mem _ hmem, hfield⟩
          · rintro ⟨field, hmem, hfield⟩
            rcases List.mem_cons.1 hmem with rfl | hmem
            · simp [hv] at hfield
            · exact ⟨field, hmem, hfield⟩

end Wire.Datum

namespace Call

theorem ofValue?_name {v : Value} (h : Name v) {cause : Failure} :
    Wire.Datum.ofValue? v ≠ .error cause := by
  cases v with
  | null => exact fun h => nomatch h
  | text s => exact fun h => nomatch h
  | _ => exact h.elim

theorem ofValue?_int {n : Int} {cause : Failure} :
    Wire.Datum.ofValue? (.int n) = .error cause ↔ cause = .unworded .overflow ∧
      Double.ofInt? n = none := by
  rw [Wire.Datum.ofValue?]
  cases Double.ofInt? n with
  | none =>
      exact ⟨fun h => ⟨(Except.error.inj h).symm, rfl⟩,
        fun h => congrArg _ h.1.symm⟩
  | some x => simp

end Call

namespace Operation

/-- A request holds the names that the operation is about, the number of an
instance as a text, and the instance count. -/
theorem field_cases (operation : Operation) {field : String × Value}
    (hmem : field ∈ operation.command.fields) :
    field.2 = operation.target.moduleName ∨ field.2 = operation.target.version ∨
      Call.Name field.2 ∨
      ∃ n target, operation = .setInstances n target ∧ field.2 = .int n := by
  cases operation <;>
    simp only [command, Channel.Command.fields, target, List.mem_cons,
      List.not_mem_nil, or_false] at hmem ⊢ <;>
    grind [Call.Name]

/-- The number of an instance can fail to have a text, and nothing else can. -/
theorem checkSpelling_error_iff {operation : Operation} {failure : Failure} :
    operation.checkSpelling = .error failure ↔ failure = .unworded .wrongValue ∧
      ∃ n, (∃ target, operation = .instanceHostname n target) ∧
        Numeral.firstOversized ≤ n := by
  cases operation with
  | instanceHostname number target =>
      have hwritable :
          (Value.int number).writable =
          decide (number < Numeral.firstOversized) := by
        simp only [Value.writable, Int.natAbs_natCast]
      show (Value.int number).spelled.map (fun _ => ()) = _ ↔ _
      rw [Failure.map_eq_error_iff, Value.spelled, hwritable]
      by_cases hlong : number < Numeral.firstOversized
      · rw [if_pos (decide_eq_true hlong)]
        refine ⟨fun h => (nomatch h), ?_⟩
        rintro ⟨-, n, ⟨_, heq⟩, hn⟩
        obtain ⟨rfl, -⟩ := instanceHostname.inj heq
        exact absurd hlong (Nat.not_lt.2 hn)
      · rw [if_neg (by simpa using hlong)]
        refine ⟨fun h => ⟨(Except.error.inj h).symm, number, ⟨target, rfl⟩,
          Nat.not_lt.1 hlong⟩, ?_⟩
        rintro ⟨rfl, -⟩
        rfl
  | _ => exact ⟨fun h => (nomatch h), fun ⟨_, _, ⟨_, heq⟩, _⟩ => (nomatch heq)⟩

end Operation

namespace Call

theorem long_number_iff {number : Value} (hnumber : Number number) :
    (∃ n, Instance.parse number = .ok n ∧ Numeral.firstOversized ≤ n) ↔
      ∃ m, number = .int m ∧ (Numeral.firstOversized : Int) ≤ m := by
  constructor
  · rintro ⟨n, hparse, hlong⟩
    cases number with
    | null => exact nomatch hparse
    | int m =>
        obtain ⟨hsign, rfl⟩ := Instance.eq_of_checkSign hparse
        exact ⟨m, rfl, by omega⟩
    | text s =>
        exact absurd (Instance.lt_of_parse_text hparse) (Nat.not_lt.2 hlong)
    | _ => exact hnumber.elim
  · rintro ⟨m, rfl, hlong⟩
    exact ⟨m.toNat, Instance.checkSign_of_nonneg (by omega), by omega⟩

/-- The fields of a request can be put into bytes unless the instance count is
out of range. -/
theorem encode_error_iff {call : Call} {operation : Operation}
    {failure : Failure} (hdocumented : call.Documented)
    (hyields : Yields call operation) :
    Channel.encodeRequest operation.command.fields = .error failure ↔
      failure = .unworded .overflow ∧ ∃ n, call.count = .int n ∧
        Double.ofInt? n = none := by
  obtain ⟨-, htarget, -, hcount⟩ := hyields
  have honly : ∀ field ∈ operation.command.fields, ∀ cause,
    Wire.Datum.ofValue? field.2 = .error cause →
      cause = .unworded .overflow ∧
        ∃ n, field.2 = .int n ∧ call.count = .int n ∧ Double.ofInt? n = none := by
    intro field hmem cause hfail
    rcases operation.field_cases hmem with hmodule | hversion | hname | ⟨n,
      target, hoperation, hn⟩
    · rw [hmodule, htarget] at hfail
      exact absurd hfail (ofValue?_name hdocumented.moduleName)
    · rw [hversion, htarget] at hfail
      exact absurd hfail (ofValue?_name hdocumented.version)
    · exact absurd hfail (ofValue?_name hname)
    · rw [hn] at hfail
      obtain ⟨hcause, hlarge⟩ := ofValue?_int.1 hfail
      exact ⟨hcause, n, hn, (hcount n).1 ⟨target, hoperation⟩, hlarge⟩
  have hsent : ∀ field ∈ Channel.sent operation.command.fields,
      field ∈ operation.command.fields :=
    fun _ hmem => List.mem_of_mem_filter hmem
  rw [Channel.encodeRequest, Failure.map_eq_error_iff,
    Wire.Datum.ofFields?_error_iff fun field hmem cause hfail =>
      (honly field (hsent field hmem) cause hfail).1]
  refine and_congr_right fun _ => ⟨?_, ?_⟩
  · rintro ⟨field, hmem, hfail⟩
    obtain ⟨-, n, -, hn, hlarge⟩ := honly field (hsent field hmem) _ hfail
    exact ⟨n, hn, hlarge⟩
  · rintro ⟨n, hn, hlarge⟩
    obtain ⟨target, rfl⟩ := (hcount n).2 hn
    refine ⟨("instances", .int n), List.mem_filter.2 ⟨?_, rfl⟩,
      ofValue?_int.2 ⟨rfl, hlarge⟩⟩
    simp [Operation.command, Channel.Command.fields]

/-- A request for a call with documented arguments cannot be made if the number
of the instance is too long to be written, or if the instance count is out of
range. -/
theorem request_error_iff {call : Call} {operation : Operation}
    {failure : Failure} (hdocumented : call.Documented)
    (hcheck : call.check = .ok operation) :
    operation.request = .error failure ↔
      failure = .unworded .wrongValue ∧
          (∃ n, call.number = .int n ∧ (Numeral.firstOversized : Int) ≤ n) ∨
        failure = .unworded .overflow ∧ ∃ n, call.count = .int n ∧
          Double.ofInt? n = none := by
  have hyields := yields_of_check hcheck
  have hspelling : operation.checkSpelling = .error failure ↔
    failure = .unworded .wrongValue ∧
      ∃ n, call.number = .int n ∧ (Numeral.firstOversized : Int) ≤ n := by
    rw [Operation.checkSpelling_error_iff, ← long_number_iff hdocumented.number]
    simp only [hyields.number]
  rw [← hspelling, ← encode_error_iff hdocumented hyields]
  unfold Operation.request
  cases hspell : operation.checkSpelling with
  | error cause =>
      simp only [Except.bind, Except.error.injEq]
      refine ⟨Or.inl, fun h => h.resolve_right fun hencode => ?_⟩
      -- the operation that has an instance count is no operation on an instance
      obtain ⟨-, n, hn, -⟩ := (encode_error_iff hdocumented hyields).1 hencode
      obtain ⟨target, rfl⟩ := (hyields.count n).2 hn
      exact nomatch hspell
  | ok _ => exact ⟨Or.inr, fun h => h.resolve_left fun hnone => nomatch hnone⟩

end Call

/-! ## Defaults -/

theorem Bindings.crosses_of_current {bindings : Bindings} {failure : Failure}
    (h : bindings.current = .error failure) : failure.kind.crosses = true := by
  cases bindings with
  | nil =>
      obtain rfl := Except.error.inj h
      rfl
  | cons context rest => exact nomatch h

theorem Target.nameOr_error {given : Value} {current : Except Failure String}
    {failure : Failure} (h : nameOr given current = .error failure) :
    current = .error failure := by
  cases given with
  | null => exact Failure.map_eq_error_iff.1 h
  | _ => exact nomatch h

/-- Callers are told of a context that is missing. -/
theorem Operation.crosses_of_resolve {operation : Operation}
    {bindings : Bindings} {failure : Failure}
    (h : operation.resolve bindings = .error failure) :
    failure.kind.crosses = true := by
  have hmodule : ∀ {moduleName}, Target.resolveModule bindings moduleName =
    .error failure →
      failure.kind.crosses = true := fun h =>
    Bindings.crosses_of_current
      (Failure.map_eq_error_iff.1 (Target.nameOr_error h))
  have htarget : ∀ {target : Target}, target.resolve bindings = .error failure →
      failure.kind.crosses = true := by
    intro target h
    rcases Failure.both_eq_error h with h | h
    · exact hmodule h
    · exact Bindings.crosses_of_current
        (Failure.map_eq_error_iff.1 (Target.nameOr_error h))
  cases operation with
  | modules => exact nomatch h
  | versions moduleName => exact hmodule (Failure.map_eq_error_iff.1 h)
  | defaultVersion moduleName => exact hmodule (Failure.map_eq_error_iff.1 h)
  | _ => exact htarget (Failure.map_eq_error_iff.1 h)

end HostedModules
