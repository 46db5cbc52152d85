import BracketQuery.Proofs.Scalar
import Mathlib.Algebra.Order.SuccPred
import Mathlib.Data.Int.SuccPred
import Mathlib.Order.SuccPred.Archimedean
import Mathlib.Tactic.Ring

/-! Numbers of the binary64 format compare by their values. -/

namespace BracketQuery.Binary64

lemma leading_pos : 0 < leading := by decide

lemma units_of_lt {magnitude : Nat} (h : magnitude < 2 * leading) : units magnitude = magnitude := by
  rw [units, significand, scale, if_pos h, if_pos h, Nat.pow_eq, pow_zero, mul_one]

lemma units_add {k r : Nat} (hr : leading ≤ r) (hr' : r ≤ 2 * leading) :
    units (k * leading + r) = r * 2 ^ k := by
  rcases Nat.lt_or_ge (k * leading + r) (2 * leading) with h | h
  · have hk : k = 0 := by
      by_contra hk
      have := Nat.le_mul_of_pos_left leading (Nat.pos_of_ne_zero hk)
      omega
    rw [units_of_lt h, hk, zero_mul, zero_add, pow_zero, mul_one]
  · have hn := Nat.not_lt.mpr h
    have hdiv : (k * leading + r) / leading = k + r / leading := by
      rw [add_comm, Nat.add_mul_div_right _ _ leading_pos, add_comm]
    have hmod : (k * leading + r) % leading = r % leading := Nat.mul_add_mod_self_right k leading r
    rw [units, significand, scale, if_neg hn, if_neg hn, hdiv, hmod, Nat.pow_eq]
    rcases hr'.lt_or_eq with hlt | rfl
    · have hone : r / leading = 1 := Nat.div_eq_of_lt_le (by omega) (by omega)
      rw [hone, Nat.add_sub_cancel, ← Nat.mod_add_div r leading, hone]
      simp [add_comm]
    -- past the last significand of a scale comes the first one of the next scale
    · rw [Nat.mul_div_cancel _ leading_pos, Nat.mul_mod_left, add_zero, Nat.add_sub_assoc (by decide),
        pow_succ]
      ring

lemma units_lt_units_succ (magnitude : Nat) : units magnitude < units (magnitude + 1) := by
  rcases Nat.lt_or_ge magnitude leading with h | h
  · rw [units_of_lt (by omega), units_of_lt (by omega)]
    exact Nat.lt_succ_self magnitude
  · obtain ⟨k, r, hr, hr', rfl⟩ : ∃ k r, leading ≤ r ∧ r < 2 * leading ∧ magnitude = k * leading + r := by
      refine ⟨magnitude / leading - 1, leading + magnitude % leading, by omega, ?_, ?_⟩
      · have := Nat.mod_lt magnitude leading_pos
        omega
      · have hone := Nat.div_pos h leading_pos
        rw [← add_assoc, ← Nat.succ_mul, Nat.succ_eq_add_one, Nat.sub_add_cancel hone,
          Nat.div_add_mod']
    rw [units_add hr (by omega), add_assoc, units_add (by omega) (by omega)]
    exact Nat.mul_lt_mul_of_pos_right (Nat.lt_succ_self r) (Nat.two_pow_pos k)

/-- The value of a finite number in units of `2 ^ -1074`. -/
def value (x : Binary64) : Int := if x.negative then -units x.magnitude else units x.magnitude

def valueOfKey (k : Int) : Int := if k < 0 then -units k.natAbs else units k.natAbs

lemma valueOfKey_natCast (a : Nat) : valueOfKey a = units a := by
  rw [valueOfKey, if_neg (Int.not_lt.mpr (Int.natCast_nonneg a)), Int.natAbs_natCast]

lemma valueOfKey_neg (a : Nat) : valueOfKey (-a) = -units a := by
  rw [valueOfKey, Int.natAbs_neg, Int.natAbs_natCast]
  split
  · rfl
  -- the two zeros have one value
  · have ha : a = 0 := by omega
    have hzero : units 0 = 0 := units_of_lt (by decide)
    rw [ha, hzero]
    rfl

lemma valueOfKey_lt_succ (k : Int) : valueOfKey k < valueOfKey (k + 1) := by
  cases k with
  | ofNat a =>
    have ha := units_lt_units_succ a
    rw [Int.ofNat_eq_natCast, ← Int.natCast_succ, valueOfKey_natCast, valueOfKey_natCast]
    exact_mod_cast ha
  | negSucc a =>
    have ha := units_lt_units_succ a
    have hnext : Int.negSucc a + 1 = -(a : Int) := by omega
    have hkey : Int.negSucc a = -((a + 1 : Nat) : Int) := rfl
    rw [hnext, hkey, valueOfKey_neg, valueOfKey_neg]
    omega

lemma valueOfKey_lt_valueOfKey {k m : Int} (h : k < m) : valueOfKey k < valueOfKey m :=
  strictMono_int_of_lt_succ valueOfKey_lt_succ h

lemma value_eq (x : Binary64) : x.value = valueOfKey x.key := by
  obtain ⟨negative, magnitude⟩ := x
  cases negative
  · exact (valueOfKey_natCast magnitude).symm
  · exact (valueOfKey_neg magnitude).symm

lemma compare_map {f : Int → Int} (hf : ∀ {a b : Int}, a < b → f a < f b) (a b : Int) :
    compare (f a) (f b) = compare a b := by
  rcases Int.lt_trichotomy a b with h | rfl | h
  · rw [Int.compare_eq_lt.mpr h, Int.compare_eq_lt.mpr (hf h)]
  · rw [Int.compare_eq_eq.mpr rfl, Int.compare_eq_eq.mpr rfl]
  · rw [Int.compare_eq_gt.mpr h, Int.compare_eq_gt.mpr (hf h)]

lemma compare?_eq_value {x y : Binary64} (hx : x.isNaN = false) (hy : y.isNaN = false) :
    x.compare? y = some (compare x.value y.value) := by
  rw [value_eq, value_eq, compare_map valueOfKey_lt_valueOfKey]
  exact compare?_eq_some.mpr ⟨hx, hy, rfl⟩

end BracketQuery.Binary64
