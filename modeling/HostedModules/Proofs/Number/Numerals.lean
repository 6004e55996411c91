/-
HostedModules.Proofs.Number.Numerals — the integers that decimal numerals
denote.

* `Numeral.Denotes` — the grammar of numerals, each with its integer
* `Numeral.ofDigits_eq` — digits are read in base ten
* `Numeral.read?_eq_some_iff` — how a numeral splits into its sign and its
  digits
* `Numeral.denotes_iff` — what is read is what denotes an integer
-/
import Mathlib.Data.List.Induction
import Mathlib.Data.Nat.Digits.Defs
import HostedModules.Number.Decimal

namespace HostedModules
namespace Numeral

/-! ## The grammar -/

/-- One or more ASCII digits. -/
def Digits (cs : List Char) : Prop := cs ≠ [] ∧ ∀ c ∈ cs, '0' ≤ c ∧ c ≤ '9'

/-- The number that digits denote in base ten, the highest digit first. -/
def magnitude (digits : List Char) : Nat :=
  Nat.ofDigits 10 (digits.reverse.map fun c => c.toNat - '0'.toNat)

/-- The text is a numeral of this integer: an optional sign, and one or more
ASCII digits. -/
inductive Denotes : List Char → Int → Prop
  | plain {digits : List Char} (h : Digits digits) :
      Denotes digits (magnitude digits)
  | plus {digits : List Char} (h : Digits digits) :
      Denotes ('+' :: digits) (magnitude digits)
  | minus {digits : List Char} (h : Digits digits) :
      Denotes ('-' :: digits) (-(magnitude digits : Int))

/-! ## The reader -/

theorem digits_iff {cs : List Char} :
    Digits cs ↔ cs.isEmpty = false ∧ cs.all isDigit = true := by
  simp [Digits, isDigit]

/-- Digits are read in base ten. -/
theorem ofDigits_eq (digits : List Char) :
    ofDigits digits = magnitude digits := by
  induction digits using List.reverseRecOn with
  | nil => rfl
  | append_singleton digits c ih =>
      rw [magnitude, List.reverse_append, List.reverse_singleton,
        List.singleton_append, List.map_cons, Nat.ofDigits_cons, Nat.add_comm]
      simp only [ofDigits, List.foldl_append, List.foldl_cons, List.foldl_nil]
      exact congrArg (10 * · + (c.toNat - '0'.toNat)) ih

theorem splitSign_digits {digits : List Char} (h : Digits digits) :
    splitSign digits = (false, digits) := by
  unfold splitSign
  split
  · exact absurd (h.2 '-' List.mem_cons_self).1 (by decide)
  · exact absurd (h.2 '+' List.mem_cons_self).1 (by decide)
  · rfl

/-- A numeral is some digits, perhaps behind a sign. -/
theorem splitSign_eq_iff {cs digits : List Char} {negative : Bool}
    (hdigits : Digits digits) :
    splitSign cs = (negative, digits) ↔
      negative = false ∧ (cs = digits ∨ cs = '+' :: digits) ∨ negative = true ∧
        cs = '-' :: digits := by
  constructor
  · intro h
    unfold splitSign at h
    split at h <;> obtain ⟨rfl, rfl⟩ := Prod.mk.inj h <;> simp
  · rintro (⟨rfl, rfl | rfl⟩ | ⟨rfl, rfl⟩)
    · exact splitSign_digits hdigits
    · rfl
    · rfl

theorem read?_eq_some_iff {cs digits : List Char} {negative : Bool} :
    read? cs = some (negative, digits) ↔ Digits digits ∧
      (negative = false ∧ (cs = digits ∨ cs = '+' :: digits) ∨ negative = true ∧
        cs = '-' :: digits) := by
  have hread : read? cs = some (negative, digits) ↔ Digits digits ∧
      splitSign cs = (negative, digits) := by
    obtain ⟨⟨sign, rest⟩, hsplit⟩ : ∃ split, splitSign cs = split := ⟨_, rfl⟩
    simp only [read?, hsplit, digits_iff]
    grind
  rw [hread]
  exact and_congr_right splitSign_eq_iff

/-- What is read denotes the integer that the sign and the digits make, and
nothing else denotes one. -/
theorem denotes_iff {cs : List Char} {n : Int} :
    Denotes cs n ↔ ∃ negative digits, read? cs = some (negative, digits) ∧
      n = signed negative (ofDigits digits) := by
  simp only [read?_eq_some_iff, ofDigits_eq]
  constructor
  · intro h
    cases h with
    | plain hdigits => exact ⟨false, _, ⟨hdigits, .inl ⟨rfl, .inl rfl⟩⟩, rfl⟩
    | plus hdigits => exact ⟨false, _, ⟨hdigits, .inl ⟨rfl, .inr rfl⟩⟩, rfl⟩
    | minus hdigits => exact ⟨true, _, ⟨hdigits, .inr ⟨rfl, rfl⟩⟩, rfl⟩
  · rintro ⟨negative, digits, ⟨hdigits, ⟨rfl, rfl | rfl⟩ | ⟨rfl, rfl⟩⟩, rfl⟩
    · exact .plain hdigits
    · exact .plus hdigits
    · exact .minus hdigits

/-- A numeral has no more digits than there are digits in its text. -/
theorem length_le_of_read? {cs digits : List Char} {negative : Bool}
    (h : read? cs = some (negative, digits)) :
    digits.length ≤ cs.countP isDigit := by
  obtain ⟨hdigits, hsplit⟩ := read?_eq_some_iff.1 h
  have hcount : digits.countP isDigit = digits.length :=
    List.countP_eq_length.2 (List.all_eq_true.1 (digits_iff.1 hdigits).2)
  obtain ⟨-, rfl | rfl⟩ | ⟨-, rfl⟩ := hsplit
  · exact hcount.ge
  · rw [List.countP_cons, hcount]
    omega
  · rw [List.countP_cons, hcount]
    omega

end Numeral
end HostedModules
