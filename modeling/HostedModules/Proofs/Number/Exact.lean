/-
HostedModules.Proofs.Number.Exact — doubles that lose nothing.

* `ofBytes_toBytes` — a double is read back from its eight bytes
* `nearestBits_exact` — a count of units with at most 53 significant bits is not
  rounded
* `ofInt?_exact` — the double of an integer of at most 53 bits stands for that
  integer
* `reading_eq_ofInt_iff` — of the integers beyond that, those of at most 53
  significant bits do too, and no others
-/
import Mathlib.Algebra.Group.Basic
import Mathlib.Algebra.Group.Nat.Defs
import HostedModules.Number.Double

namespace HostedModules
namespace Double

/-! ## Bytes -/

/-- The bytes of a number stand for as much of it as they hold. -/
theorem bytesToNat_digits (count n : Nat) :
    bytesToNat ((List.range count).map
      fun i => UInt8.ofNat (n / Nat.pow 256 i % 256)) =
      n % Nat.pow 256 count := by
  induction count generalizing n with
  | zero => exact (Nat.mod_one n).symm
  | succ count ih =>
      have hshift : ∀ i, n / Nat.pow 256 (i + 1) = n / 256 / Nat.pow 256 i := by
        intro i
        rw [Nat.div_div_eq_div_mul, Nat.mul_comm]
        rfl
      have hbyte : (UInt8.ofNat (n % 256)).toNat = n % 256 := by
        rw [UInt8.toNat_ofNat']; omega
      have hfirst : n / Nat.pow 256 0 = n := Nat.div_one n
      rw [List.range_succ_eq_map, List.map_cons, List.map_map]
      show (UInt8.ofNat (n / Nat.pow 256 0 % 256)).toNat + 256 *
        bytesToNat ((List.range count).map fun i =>
        UInt8.ofNat (n / Nat.pow 256 (i + 1) % 256)) =
          n % Nat.pow 256 (count + 1)
      simp only [hshift, ih, hfirst, hbyte]
      show _ = n % (Nat.pow 256 count * 256)
      rw [Nat.mul_comm (Nat.pow 256 count) 256, Nat.mod_mul]

theorem ofBytes_toBytes (x : Double) : ofBytes x.toBytes = x := by
  obtain ⟨bits⟩ := x
  rw [ofBytes, toBytes, bytesToNat_digits,
    Nat.mod_eq_of_lt (by simpa using bits.toNat_lt)]
  exact congrArg Double.mk (UInt64.ofNat_toNat)

/-! ## Integers -/

/-- Integers up to this size lose nothing as doubles: they have at most 53
significant bits. -/
def exactLimit : Nat := Nat.pow 2 53

theorem nearestWhole_exact (w : Nat) {d : Nat} (h : 0 < d) :
    nearestWhole (w * d) d = w := by
  unfold nearestWhole
  simp only [Nat.mul_div_cancel w h, Nat.mul_mod_left, Nat.mul_zero, h, if_true]

/-- A count of units with 53 significant bits is not rounded. -/
theorem nearestBits_exact {w : Nat} (s : Nat) (hlow : 2 ^ 52 ≤ w)
    (hhigh : w < 2 ^ 53) :
    nearestBits (w * 2 ^ s) 1 = s * exponentPlace + w := by
  have hpos : 0 < 2 ^ s := Nat.two_pow_pos s
  have hlog : (w * 2 ^ s).log2 = 52 + s := by
    rw [Nat.log2_eq_iff (Nat.ne_of_gt (Nat.mul_pos (by omega) hpos)),
      Nat.add_right_comm, pow_add, pow_add]
    exact ⟨Nat.mul_le_mul_right _ hlow, Nat.mul_lt_mul_of_pos_right hhigh hpos⟩
  unfold nearestBits
  simp only [Nat.div_one, hlog, Nat.add_sub_cancel_left, Nat.one_mul]
  exact congrArg (s * exponentPlace + ·) (nearestWhole_exact w hpos)

/-- The double of a sign, and of exponent and fraction bits. -/
def pack (negative : Bool) (size : Nat) : Double :=
  ⟨UInt64.ofNat (if negative then size + signPlace else size)⟩

section Normal

variable {w s : Nat} (negative : Bool) (hlow : 2 ^ 52 ≤ w) (hhigh : w < 2 ^ 53)
    (hs : s < 2046)

include hlow hhigh hs

theorem bits_pack :
    (pack negative (s * exponentPlace + w)).bits.toNat =
      (if negative then 2048 else 0) * exponentPlace + (s + 1) * exponentPlace +
        (w - 2 ^ 52) := by
  have hplace : exponentPlace = 2 ^ 52 := rfl
  have hsign : signPlace = 2048 * exponentPlace := rfl
  show (UInt64.ofNat (if negative then s * exponentPlace + w + signPlace
    else s * exponentPlace + w)).toNat = _
  rw [UInt64.toNat_ofNat', hsign, hplace]
  cases negative <;> simp only [if_true, Bool.false_eq_true, if_false] <;> omega

theorem exponentField_pack :
    (pack negative (s * exponentPlace + w)).exponentField = s + 1 := by
  have hplace : exponentPlace = 2 ^ 52 := rfl
  rw [exponentField, bits_pack negative hlow hhigh hs, hplace]
  cases negative <;> simp only [if_true, Bool.false_eq_true, if_false] <;> omega

theorem fractionField_pack :
    (pack negative (s * exponentPlace + w)).fractionField = w - 2 ^ 52 := by
  have hplace : exponentPlace = 2 ^ 52 := rfl
  rw [fractionField, bits_pack negative hlow hhigh hs, hplace]
  cases negative <;> simp only [if_true, Bool.false_eq_true, if_false] <;> omega

theorem negative_pack :
    (pack negative (s * exponentPlace + w)).negative = negative := by
  have hplace : exponentPlace = 2 ^ 52 := rfl
  have hsign : signPlace = 2048 * exponentPlace := rfl
  rw [Double.negative, bits_pack negative hlow hhigh hs, hsign, hplace]
  cases negative <;> simp only [if_true, Bool.false_eq_true, if_false]
  · exact decide_eq_false (by omega)
  · exact decide_eq_true (by omega)

/-- What a normal double stands for. -/
theorem reading_pack :
    (pack negative (s * exponentPlace + w)).reading =
      .units (if negative then -((w * 2 ^ s : Nat) : Int)
        else (w * 2 ^ s : Nat)) := by
  have hexponent := exponentField_pack negative hlow hhigh hs
  have hsignificand : (pack negative (s * exponentPlace + w)).significand = w := by
    have hplace : exponentPlace = 2 ^ 52 := rfl
    rw [significand, hexponent, if_neg (Nat.succ_ne_zero s),
      fractionField_pack negative hlow hhigh hs, hplace]
    omega
  have hmagnitude : (pack negative (s * exponentPlace + w)).magnitude =
      w * 2 ^ s := by
    rw [magnitude, hsignificand, scale, hexponent]
    rfl
  rw [reading, hexponent, if_neg (by omega),
    negative_pack negative hlow hhigh hs, hmagnitude]

end Normal

/-- So many times a large power of two has a significand of exactly 53 bits. -/
theorem exists_significand {m e : Nat} (hpos : 0 < m) (hle : m ≤ exactLimit) (he : 52 ≤ e) :
    ∃ w s, m * 2 ^ e = w * 2 ^ s ∧ 2 ^ 52 ≤ w ∧ w < 2 ^ 53 ∧ s ≤ e + 1 := by
  have hlimit : exactLimit = 2 ^ 53 := rfl
  rw [hlimit] at hle
  rcases Nat.lt_or_eq_of_le hle with hlt | rfl
  · have hlog : m.log2 < 53 := (Nat.log2_lt (by omega)).2 hlt
    have hself : 2 ^ m.log2 ≤ m := Nat.log2_self_le (by omega)
    have hnext : m < 2 ^ (m.log2 + 1) := Nat.lt_log2_self
    have hpow : 0 < 2 ^ (52 - m.log2) := Nat.two_pow_pos _
    refine ⟨m * 2 ^ (52 - m.log2), e - (52 - m.log2), ?_, ?_, ?_, by omega⟩
    · rw [Nat.mul_assoc, ← pow_add, Nat.add_sub_cancel' (by omega)]
    · calc 2 ^ 52 = 2 ^ m.log2 * 2 ^ (52 - m.log2) := by
            rw [← pow_add, Nat.add_sub_cancel' (by omega)]
        _ ≤ m * 2 ^ (52 - m.log2) := Nat.mul_le_mul_right _ hself
    · calc m * 2 ^ (52 - m.log2) < 2 ^ (m.log2 + 1) * 2 ^ (52 - m.log2) :=
            Nat.mul_lt_mul_of_pos_right hnext hpow
        _ = 2 ^ 53 := by
          rw [← pow_add, Nat.add_right_comm, Nat.add_sub_cancel' (by omega)]
  · refine ⟨2 ^ 52, e + 1, ?_, Nat.le_refl _, by omega, Nat.le_refl _⟩
    rw [← pow_add, ← pow_add]
    congr 1
    omega

/-- One is a power of two of units, large enough for a significand and small
enough for an exponent. -/
theorem exists_unit_exponent :
    ∃ e, 52 ≤ e ∧ e < 2045 ∧ Quantity.unitsPerOne = 2 ^ e := by
  unfold Quantity.unitsPerOne
  generalize hexponent : 1074 = exponent
  exact ⟨exponent, by omega, by omega, rfl⟩

theorem signed_natAbs (n : Int) (unit : Nat) :
    (if decide (n < 0) then -((n.natAbs * unit : Nat) : Int)
      else (n.natAbs * unit : Nat)) = n * unit := by
  by_cases hn : n < 0
  · rw [decide_eq_true hn, if_pos rfl, Int.natCast_mul,
      Int.ofNat_natAbs_of_nonpos (by omega), Int.neg_mul,
      Int.neg_neg]
  · rw [decide_eq_false hn, if_neg Bool.false_ne_true, Int.natCast_mul,
      Int.natAbs_of_nonneg (by omega)]

/-- An integer whose size in units has 53 significant bits is not rounded, but
it may be out of range. -/
theorem ofInt?_of_significand {n : Int} {w s : Nat}
    (hsame : n.natAbs * Quantity.unitsPerOne = w * 2 ^ s) (hlow : 2 ^ 52 ≤ w)
    (hhigh : w < 2 ^ 53) :
    ofInt? n = if s < 2046 then
      some (pack (decide (n < 0)) (s * exponentPlace + w)) else none := by
  have hplace : exponentPlace = 2 ^ 52 := rfl
  by_cases hs : s < 2046
  · have hcap : ¬ 0x7FF0000000000000 ≤ s * exponentPlace + w := by
      rw [hplace]; omega
    have hx : nearest (decide (n < 0)) n.natAbs 1 =
        pack (decide (n < 0)) (s * exponentPlace + w) := by
      unfold nearest
      simp only [hsame, nearestBits_exact s hlow hhigh, hcap, if_false]
      rfl
    have hfinite : (pack (decide (n < 0)) (s * exponentPlace + w)).finite =
        true := by
      rw [finite, exponentField_pack _ hlow hhigh hs]
      exact decide_eq_true (by omega)
    unfold ofInt?
    simp only [hx, hfinite, hs, if_true]
  · have hcap : 0x7FF0000000000000 ≤ s * exponentPlace + w := by
      rw [hplace]; omega
    have hx : nearest (decide (n < 0)) n.natAbs 1 =
        pack (decide (n < 0)) 0x7FF0000000000000 := by
      unfold nearest
      simp only [hsame, nearestBits_exact s hlow hhigh, hcap, if_true]
      rfl
    have hinfinite : ∀ negative, (pack negative 0x7FF0000000000000).finite =
        false := by decide
    unfold ofInt?
    simp only [hx, hinfinite, hs, if_false, Bool.false_eq_true]

/-- The double of an integer of at most 53 bits stands for that integer. -/
theorem ofInt?_exact {n : Int} (h : n.natAbs ≤ exactLimit) :
    ∃ x, ofInt? n = some x ∧ x.finite = true ∧ x.reading = Quantity.ofInt n := by
  rcases Nat.eq_zero_or_pos n.natAbs with hzero | hpos
  · obtain rfl := Int.natAbs_eq_zero.1 hzero
    have hx : nearest false 0 1 = ⟨0⟩ := by
      unfold nearest
      rw [Nat.zero_mul]
      rfl
    refine ⟨⟨0⟩, ?_, rfl, ?_⟩
    · show (if (nearest false 0 1).finite then some (nearest false 0 1)
        else none) = _
      rw [hx]
      rfl
    · rw [Quantity.ofInt, Int.zero_mul]
      rfl
  · obtain ⟨e, hlarge, hsmall, hunits⟩ := exists_unit_exponent
    obtain ⟨w, s, hsame, hlow, hhigh, hs⟩ := exists_significand hpos h hlarge
    have hs : s < 2046 := by omega
    refine ⟨pack (decide (n < 0)) (s * exponentPlace + w), ?_, ?_, ?_⟩
    · rw [ofInt?_of_significand (hunits ▸ hsame) hlow hhigh, if_pos hs]
    · rw [finite, exponentField_pack _ hlow hhigh hs]
      exact decide_eq_true (by omega)
    · rw [reading_pack _ hlow hhigh hs, Quantity.ofInt, hunits, ← hsame,
        signed_natAbs]

/-! ## Integers with few significant bits -/

/-- An integer of at most 53 significant bits, with any number of zeros behind
them. -/
def Fits (n : Int) : Prop := ∃ m k : Nat, n.natAbs = m * 2 ^ k ∧ m < 2 ^ 53

theorem finite_of_ofInt? {n : Int} {x : Double} (h : ofInt? n = some x) :
    x.finite = true := by
  unfold ofInt? at h
  dsimp only at h
  split at h
  · next hfinite => exact Option.some.inj h ▸ hfinite
  · cases h

/-- A finite double stands for its significand, scaled up. -/
theorem natAbs_of_reading {n : Int} {x : Double} (hfinite : x.finite = true)
    (h : x.reading = Quantity.ofInt n) :
    n.natAbs * Quantity.unitsPerOne = x.significand * 2 ^ x.scale := by
  have hexponent : x.exponentField ≠ 2047 := by simpa [finite] using hfinite
  rw [reading, if_neg hexponent, Quantity.ofInt, Quantity.units.injEq] at h
  have hsize : (n * (Quantity.unitsPerOne : Int)).natAbs = x.magnitude := by
    rw [← h]
    cases x.negative <;> simp
  rw [← Int.natAbs_natCast Quantity.unitsPerOne, ← Int.natAbs_mul, hsize]
  rfl

theorem significand_lt (x : Double) : x.significand < 2 ^ 53 := by
  have hplace : exponentPlace = 2 ^ 52 := rfl
  have hfraction : x.fractionField < exponentPlace :=
    Nat.mod_lt _ (by rw [hplace]; omega)
  unfold significand
  split <;> omega

/-- If the units of a number have few significant bits, so has the number. -/
theorem exists_shift {a w s e : Nat} (h : a * 2 ^ e = w * 2 ^ s)
    (hw : w < 2 ^ 53) :
    ∃ m k, a = m * 2 ^ k ∧ m < 2 ^ 53 := by
  rcases Nat.le_total e s with hle | hle
  · refine ⟨w, s - e, ?_, hw⟩
    have hpow : w * 2 ^ s = w * 2 ^ (s - e) * 2 ^ e := by
      rw [Nat.mul_assoc, ← pow_add, Nat.sub_add_cancel hle]
    exact Nat.eq_of_mul_eq_mul_right (Nat.two_pow_pos e) (h.trans hpow)
  · refine ⟨a, 0, (Nat.mul_one a).symm, ?_⟩
    have hpow : a * 2 ^ e = a * 2 ^ (e - s) * 2 ^ s := by
      rw [Nat.mul_assoc, ← pow_add, Nat.sub_add_cancel hle]
    have hsame : a * 2 ^ (e - s) = w :=
      Nat.eq_of_mul_eq_mul_right (Nat.two_pow_pos s) (hpow.symm.trans h)
    calc a ≤ a * 2 ^ (e - s) := Nat.le_mul_of_pos_right a (Nat.two_pow_pos _)
      _ = w := hsame
      _ < 2 ^ 53 := hw

/-- **The double nearest to an integer stands for it exactly if the integer has
at most 53 significant bits.** -/
theorem reading_eq_ofInt_iff {n : Int} {x : Double} (h : ofInt? n = some x) :
    x.reading = Quantity.ofInt n ↔ Fits n := by
  obtain ⟨e, hlarge, hsmall, hunits⟩ := exists_unit_exponent
  constructor
  · intro hreading
    have hsize := natAbs_of_reading (finite_of_ofInt? h) hreading
    exact exists_shift (hunits ▸ hsize) x.significand_lt
  · rintro ⟨m, k, hm, hlt⟩
    rcases Nat.eq_zero_or_pos m with rfl | hpos
    · have hzero : n.natAbs ≤ exactLimit := by simp [hm]
      obtain ⟨y, hy, -, hreading⟩ := ofInt?_exact hzero
      obtain rfl := Option.some.inj (hy.symm.trans h)
      exact hreading
    · -- the zeros behind the significant bits only add to the exponent
      obtain ⟨w, s, hsame, hlow, hhigh, -⟩ :=
        exists_significand (e := k + e) hpos (Nat.le_of_lt hlt) (by omega)
      have hunited : n.natAbs * Quantity.unitsPerOne = w * 2 ^ s := by
        rw [← hsame, hm, hunits, Nat.mul_assoc, ← pow_add]
      rw [ofInt?_of_significand hunited hlow hhigh] at h
      split at h
      · next hs =>
          obtain rfl := Option.some.inj h
          rw [reading_pack _ hlow hhigh hs, Quantity.ofInt, ← hunited,
            signed_natAbs]
      · cases h

end Double
end HostedModules
