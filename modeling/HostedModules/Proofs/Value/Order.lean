/-
HostedModules.Proofs.Value.Order — equality and order of numbers.

Numbers and truth values are equal exactly if their quantities are.  The
undefined quantity stands in no order.  All others are in a strict total order,
in which integers are ordered as they are.

* `Quantity.ofInt_inj`, `Quantity.equal_ofInt` — integers have different
  quantities
* `Quantity.less_irrefl`, `Quantity.less_trans` — the order is strict
* `Quantity.eq_of_not_less` — of two defined quantities neither of which is
  less, both are one
* `Quantity.less_ofInt` — the order of integers
* `Value.equal_of_quantity?` — equality with a number or truth value
* `Value.equal_int`, `Value.eq_of_equal_int` — a value equals an integer by its
  quantity, so at most one
-/
import HostedModules.Value

namespace HostedModules

namespace Quantity

theorem unitsPerOne_pos : 0 < unitsPerOne := by
  unfold unitsPerOne
  generalize 1074 = exponent
  exact Nat.pow_pos (Nat.succ_pos 1)

theorem ofInt_inj {m n : Int} (h : ofInt m = ofInt n) : m = n := by
  have hunits : m * (unitsPerOne : Int) = n * (unitsPerOne : Int) := by
    simpa only [ofInt, units.injEq] using h
  exact Int.eq_of_mul_eq_mul_right (by have := unitsPerOne_pos; omega) hunits

theorem eq_of_equal {p q : Quantity} (h : p.equal q = true) : p = q := by
  cases p <;> cases q <;> simp_all [equal]

theorem equal_ofInt (m n : Int) :
    (ofInt m).equal (ofInt n) = decide (m = n) := by
  by_cases h : m = n
  · subst h
    rw [decide_eq_true rfl]
    exact beq_self_eq_true _
  · rw [decide_eq_false h, Bool.eq_false_iff]
    exact fun heq => h (ofInt_inj (eq_of_equal heq))

theorem less_irrefl (p : Quantity) : p.less p = false := by
  cases p <;> simp [less]

theorem less_trans {p q r : Quantity} (hpq : p.less q = true)
    (hqr : q.less r = true) : p.less r = true := by
  cases p <;> cases q <;> cases r <;> simp [less] at hpq hqr ⊢
  omega

/-- Only defined quantities stand in an order. -/
theorem ne_undefined_of_less {p q : Quantity} (h : p.less q = true) :
    p ≠ .undefined ∧ q ≠ .undefined := by
  cases p <;> cases q <;> simp [less] at h ⊢

theorem eq_of_not_less {p q : Quantity} (hp : p ≠ .undefined)
    (hq : q ≠ .undefined) (hpq : p.less q = false)
    (hqp : q.less p = false) : p = q := by
  cases p <;> cases q <;> simp [less] at hp hq hpq hqp ⊢
  omega

/-- Two quantities compare as equal if they are one quantity, and that is
defined. -/
theorem equal_iff {p q : Quantity} :
    p.equal q = true ↔ p = q ∧ p ≠ .undefined := by
  refine ⟨fun h => ⟨eq_of_equal h, ?_⟩, ?_⟩
  · rintro rfl
    exact nomatch h
  · rintro ⟨rfl, hdefined⟩
    cases p <;> simp [equal] at hdefined ⊢

theorem less_ofInt (m n : Int) : (ofInt m).less (ofInt n) = decide (m < n) := by
  have hunit : (0 : Int) < (unitsPerOne : Int) := by
    have := unitsPerOne_pos
    omega
  rw [ofInt, ofInt, less, decide_eq_decide]
  exact Int.mul_lt_mul_right hunit

end Quantity

namespace Value

/-- Numbers and truth values are equal exactly if their quantities are. -/
theorem equal_of_quantity? {v : Value} {p : Quantity} (h : v.quantity? = some p)
    (w : Value) :
    v.equal w = (w.quantity?.any p.equal) := by
  have hsame : v.equal w = v.sameQuantity w := by
    cases v with
    | bool b => cases w <;> rw [equal] <;> simp
    | int n => cases w <;> rw [equal] <;> simp
    | double x => cases w <;> rw [equal] <;> simp
    | _ => exact nomatch h
  rw [hsame, sameQuantity, h]
  cases w.quantity? <;> rfl

theorem equal_int (v : Value) (n : Int) :
    v.equal (.int n) = true ↔ v.quantity? = some (Quantity.ofInt n) := by
  have hsame : v.equal (.int n) = v.sameQuantity (.int n) := by
    cases v <;> simp only [equal]
  rw [hsame]
  unfold sameQuantity
  cases v.quantity? with
  | none => simp
  | some p =>
      refine ⟨fun h => congrArg some (Quantity.eq_of_equal h), fun h => ?_⟩
      obtain rfl := Option.some.inj h
      exact (Quantity.equal_ofInt n n).trans (decide_eq_true rfl)

/-- No value equals two integers. -/
theorem eq_of_equal_int {v : Value} {m n : Int} (hm : v.equal (.int m) = true)
    (hn : v.equal (.int n) = true) :
    m = n := by
  rw [equal_int] at hm hn
  exact Quantity.ofInt_inj (Option.some.inj (hm.symm.trans hn))

theorem int_equal_int (m n : Int) :
    (Value.int m).equal (.int n) = decide (m = n) := by
  rw [Bool.eq_iff_iff, equal_int, decide_eq_true_iff]
  exact ⟨fun h => Quantity.ofInt_inj (Option.some.inj h), fun h => by
    rw [h]; rfl⟩

end Value

end HostedModules
