import BracketQuery.Proofs.Number.Rounding
import BracketQuery.Proofs.Text.Numeral
import Mathlib.Data.List.TakeWhile

/-! An integer that is written in decimal is read as the number that is nearest to it. -/

namespace BracketQuery

lemma Text.isNumeral_of_text {n : Int} {v : String} (hv : (Json.Number.integer n).text = v) :
    IsNumeral n v.toList := by
  have h := isDigits_decimal n.natAbs
  rw [← hv, Json.Number.text]
  split
  · next hneg =>
    have hm := IsNumeral.minus h
    rw [digitsValue_decimal, Int.ofNat_natAbs_of_nonpos hneg.le, Int.neg_neg] at hm
    rwa [String.toList_append]
  · next hpos =>
    have hp := IsNumeral.plain h
    rwa [digitsValue_decimal, Int.natAbs_of_nonneg (Int.not_lt.mp hpos)] at hp

namespace Binary64

variable {n m : Int}

lemma isNaN_magnitudeOf (negative : Bool) (num den : Nat) :
    (Binary64.mk negative (magnitudeOf num den)).isNaN = false := by
  rw [isNaN, magnitudeOf, decide_eq_false_iff_not, Nat.not_lt]
  exact min_le_left _ _

lemma isNaN_ofInt (n : Int) : (ofInt n).isNaN = false := isNaN_magnitudeOf _ _ _

lemma compare?_signed {negative : Bool} (h : n = 0 ∨ negative = decide (n < 0)) :
    (Binary64.mk negative (magnitudeOf n.natAbs 1)).compare? (ofInt n) = some .eq := by
  rcases h with rfl | rfl
  · rw [ofInt, Int.natAbs_zero, magnitudeOf_zero]
    cases negative <;> rfl
  · exact compare?_self (isNaN_ofInt n)

lemma exists_rounds_ofInt (hl : n.natAbs.log2 < 1024) :
    ∃ r, Rounds n r ∧ (ofInt n).value = r * unitsOfOne := by
  obtain ⟨s, hs, hvalue⟩ := exists_rounds hl
  rw [ofInt, value, hvalue, Nat.cast_mul]
  rcases lt_or_ge n 0 with hn | hn
  · refine ⟨-s, ?_, ?_⟩
    · have := hs.neg
      rwa [Int.ofNat_natAbs_of_nonpos hn.le, Int.neg_neg] at this
    · rw [decide_eq_true hn, if_pos rfl, Int.neg_mul]
  · refine ⟨s, by rwa [Int.natAbs_of_nonneg hn] at hs, ?_⟩
    rw [decide_eq_false (Int.not_lt.mpr hn), if_neg Bool.false_ne_true]

lemma compare?_ofInt (hn : n.natAbs.log2 < 1024) (hm : m.natAbs.log2 < 1024) :
    ∃ r s, Rounds n r ∧ Rounds m s ∧ (ofInt n).compare? (ofInt m) = some (compare r s) := by
  obtain ⟨r, hr, hvr⟩ := exists_rounds_ofInt hn
  obtain ⟨s, hs, hvs⟩ := exists_rounds_ofInt hm
  have hpos : (0 : Int) < unitsOfOne := Int.natCast_pos.mpr unitsOfOne_pos
  refine ⟨r, s, hr, hs, ?_⟩
  rw [compare?_eq_value (isNaN_ofInt n) (isNaN_ofInt m), hvr, hvs]
  exact congrArg some
    (compare_map (f := (· * unitsOfOne)) (fun h => Int.mul_lt_mul_of_pos_right h hpos) r s)

end Binary64

namespace Decimal

open Text

lemma readUnsigned?_digits {ds : List Char} (h : IsDigits ds) (negative : Bool) :
    readUnsigned? negative ds = some ⟨negative, digitsValue ds, 0⟩ := by
  have htake : ds.takeWhile Char.isDigit = ds := List.takeWhile_eq_self_iff.mpr h.isDigit
  have hdrop : ds.dropWhile Char.isDigit = [] := List.dropWhile_eq_nil_iff.mpr h.isDigit
  simp [readUnsigned?, htake, hdrop, h.ne_nil]

lemma toBinary64_integer (negative : Bool) (n : Nat) :
    Notation.toBinary64 ⟨negative, n, 0⟩ = ⟨negative, Binary64.magnitudeOf n 1⟩ := by
  rw [Notation.toBinary64, Binary64.ofDecimal]
  rcases eq_or_ne n 0 with rfl | hn
  · rw [Binary64.magnitudeOf_zero, if_pos rfl]
  · simp [hn]

lemma read?_numeral {n : Int} {s : List Char} (h : IsNumeral n s) : ∃ negative,
    read? s = some ⟨negative, Binary64.magnitudeOf n.natAbs 1⟩ ∧
      (n = 0 ∨ negative = decide (n < 0)) := by
  cases h with
  | plain h =>
    refine ⟨false, ?_, .inr (by simp)⟩
    unfold read?
    split
    next negative r hr =>
      split at hr
      · exact absurd (h.isDigit '-' List.mem_cons_self) (by decide)
      · exact absurd (h.isDigit '+' List.mem_cons_self) (by decide)
      · cases hr
        simp only [readUnsigned?_digits h, toBinary64_integer, Int.natAbs_natCast]
  | plus h =>
    refine ⟨false, ?_, .inr (by simp)⟩
    simp only [read?, readUnsigned?_digits h, toBinary64_integer, Int.natAbs_natCast]
  | minus h =>
    refine ⟨true, ?_, by simp; omega⟩
    simp only [read?, readUnsigned?_digits h, toBinary64_integer, Int.natAbs_neg, Int.natAbs_natCast]

end Decimal

lemma Scalar.order?_integer {n m : Int} {v : String} (hn : n.natAbs.log2 < 1024)
    (hm : m.natAbs.log2 < 1024) (hv : Text.IsNumeral m v.toList) : ∃ r s, Rounds n r ∧ Rounds m s ∧
      order? (.number (.integer n)) v = some (compare r s) := by
  obtain ⟨negative, hread, hsign⟩ := Decimal.read?_numeral hv
  obtain ⟨r, s, hr, hs, horder⟩ := Binary64.compare?_ofInt hn hm
  refine ⟨r, s, hr, hs, ?_⟩
  rw [order?, pair?, readNumber?, hv.trim_eq, hread, Option.map_some, Option.bind_some, ← horder]
  exact Binary64.compare?_congr _ (Binary64.compare?_signed hsign)

end BracketQuery
