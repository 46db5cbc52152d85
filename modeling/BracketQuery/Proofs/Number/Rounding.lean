import BracketQuery.Proofs.Number.Binary64
import Mathlib.Algebra.Group.Int.Even
import Mathlib.Tactic.Linarith

/-! Integers are rounded to significands of 53 bits, which keeps their order up to equality. -/

namespace BracketQuery

/-- A number is rounded to a multiple of `2 ^ e`, the weight of the last of its 53 bits: to the
nearest one, and to the even one of two that are equally near. -/
structure RoundsAt (e : Nat) (n r : Int) : Prop where
  low : e = 0 ∨ 2 ^ (52 + e) ≤ n.natAbs
  high : n.natAbs < 2 ^ (53 + e)
  near : 2 * (n - r).natAbs ≤ 2 ^ e
  even : ∃ c : Int, r = c * 2 ^ e ∧ (2 * (n - r).natAbs = 2 ^ e → Even c)

def Rounds (n r : Int) : Prop := ∃ e, RoundsAt e n r

lemma step_of_not_le {c d p : Int} (hp : 0 < p) (h : ¬c * p ≤ d * p) :
    d + 1 ≤ c ∧ d * p + p ≤ c * p := by
  have hdc : d + 1 ≤ c := by
    by_contra hdc
    exact h (Int.mul_le_mul_of_nonneg_right (by omega) hp.le)
  have hmul := Int.mul_le_mul_of_nonneg_right hdc hp.le
  rw [Int.add_mul, Int.one_mul] at hmul
  exact ⟨hdc, hmul⟩

namespace RoundsAt

variable {e f : Nat} {n m r s : Int}

lemma neg (h : RoundsAt e n r) : RoundsAt e (-n) (-r) := by
  have hdist : (-n - -r).natAbs = (n - r).natAbs := by omega
  obtain ⟨c, rfl, hc⟩ := h.even
  refine ⟨by simpa using h.low, by simpa using h.high, by simpa only [hdist] using h.near,
    -c, (Int.neg_mul _ _).symm, ?_⟩
  rw [hdist]
  exact fun ht => (hc ht).neg

lemma mul_le (h : RoundsAt e n r) {k : Int} (hk : k * 2 ^ e ≤ n) : k * 2 ^ e ≤ r := by
  obtain ⟨c, rfl, -⟩ := h.even
  have hnear := h.near
  have hcast : ((2 ^ e : Nat) : Int) = 2 ^ e := by push_cast; rfl
  by_contra hlt
  obtain ⟨-, hmul⟩ := step_of_not_le (by positivity) hlt
  omega

lemma le_mul (h : RoundsAt e n r) {k : Int} (hk : n ≤ k * 2 ^ e) : r ≤ k * 2 ^ e := by
  have := h.neg.mul_le (k := -k) (by rw [Int.neg_mul]; omega)
  rw [Int.neg_mul] at this
  omega

lemma mono_same (hn : RoundsAt e n r) (hm : RoundsAt e m s) (h : n ≤ m) : r ≤ s := by
  obtain ⟨c, rfl, hc⟩ := hn.even
  obtain ⟨d, rfl, hd⟩ := hm.even
  have hnear := hn.near
  have hnear' := hm.near
  have hpos : (0 : Int) < 2 ^ e := by positivity
  have hcast : ((2 ^ e : Nat) : Int) = 2 ^ e := by push_cast; rfl
  by_contra hlt
  obtain ⟨hdc, hmul⟩ := step_of_not_le hpos hlt
  have hnext : c = d + 1 := by
    by_contra hne
    have htwo := Int.mul_le_mul_of_nonneg_right (show d + 2 ≤ c by omega) hpos.le
    rw [Int.add_mul] at htwo
    omega
  -- both numbers are tied between these neighbours, and only one of the two is even
  obtain ⟨a, ha⟩ := hc (by omega)
  obtain ⟨b, hb⟩ := hd (by omega)
  omega

lemma mono_lt (hn : RoundsAt e n r) (hm : RoundsAt f m s) (hef : e < f) (h : n ≤ m) : r ≤ s := by
  -- `2 ^ (52 + f)` lies between the two numbers and is a multiple of both weights
  have hlow : (2 : Int) ^ (52 + f) ≤ m.natAbs := by
    exact_mod_cast hm.low.resolve_left (Nat.ne_of_gt (Nat.zero_lt_of_lt hef))
  have hhigh : (n.natAbs : Int) < 2 ^ (53 + e) := by exact_mod_cast hn.high
  have hpow : (2 : Int) ^ (53 + e) ≤ 2 ^ (52 + f) := pow_le_pow_right₀ (by decide) (by omega)
  have hr : r ≤ 2 ^ 53 * 2 ^ e := hn.le_mul (by rw [← pow_add]; omega)
  have hs : 2 ^ 52 * 2 ^ f ≤ s := hm.mul_le (by rw [← pow_add]; omega)
  rw [← pow_add] at hr hs
  omega

end RoundsAt

namespace Rounds

variable {n m r s : Int}

lemma mono (hn : Rounds n r) (hm : Rounds m s) (h : n ≤ m) : r ≤ s := by
  obtain ⟨e, hn⟩ := hn
  obtain ⟨f, hm⟩ := hm
  rcases Nat.lt_trichotomy e f with hef | rfl | hef
  · exact hn.mono_lt hm hef h
  · exact hn.mono_same hm h
  · exact Int.neg_le_neg_iff.mp (hm.neg.mono_lt hn.neg hef (Int.neg_le_neg h))

lemma unique (hr : Rounds n r) (hs : Rounds n s) : r = s :=
  Int.le_antisymm (hr.mono hs (Int.le_refl n)) (hs.mono hr (Int.le_refl n))

lemma eq_self (h : Rounds n r) (hn : n.natAbs < 2 ^ 53) : r = n := by
  obtain ⟨e, h⟩ := h
  have he : e = 0 := by
    by_contra he
    have hpow : 2 ^ 53 ≤ 2 ^ (52 + e) := Nat.pow_le_pow_right (by decide) (by omega)
    have hlow := h.low.resolve_left he
    omega
  subst he
  have hnear := h.near
  omega

lemma two_pow : Rounds (2 ^ 53) (2 ^ 53) :=
  ⟨1, .inr (by decide), by decide, by decide, 2 ^ 52, by decide, fun h => absurd h (by decide)⟩

lemma neg (h : Rounds n r) : Rounds (-n) (-r) := h.imp fun _ h => h.neg

lemma lt_of_lt (hn : Rounds n r) (hm : Rounds m s) (h : r < s) : n < m := by
  by_contra hle
  exact absurd (hm.mono hn (Int.not_lt.mp hle)) (Int.not_le.mpr h)

lemma lt_of_short (hn : Rounds n r) (hm : Rounds m s) (hs : n.natAbs < 2 ^ 53) (h : n < m) :
    r < s := by
  rw [hn.eq_self hs]
  rcases Nat.lt_or_ge m.natAbs (2 ^ 53) with hs' | hl
  · rwa [hm.eq_self hs']
  · have hle : 2 ^ 53 ≤ s := two_pow.mono hm (by omega)
    omega

lemma lt_iff (hn : Rounds n r) (hm : Rounds m s) (h : n.natAbs < 2 ^ 53 ∨ m.natAbs < 2 ^ 53) :
    r < s ↔ n < m := by
  refine ⟨hn.lt_of_lt hm, fun hlt => ?_⟩
  rcases h with hs | hs
  · exact hn.lt_of_short hm hs hlt
  · exact Int.neg_lt_neg_iff.mp
      (hm.neg.lt_of_short hn.neg (by rwa [Int.natAbs_neg]) (Int.neg_lt_neg hlt))

end Rounds

namespace Binary64

lemma roundQuotient_mul_right {num den c : Nat} (hc : 0 < c) :
    roundQuotient (num * c) (den * c) = roundQuotient num den := by
  have htwice : 2 * (num % den * c) = 2 * (num % den) * c := (mul_assoc _ _ _).symm
  simp only [roundQuotient, Nat.mul_div_mul_right _ _ hc, Nat.mul_mod_mul_right, htwice,
    Nat.mul_lt_mul_right hc]

lemma roundQuotient_mul_self {q den : Nat} (hd : 0 < den) : roundQuotient (q * den) den = q := by
  rw [roundQuotient, Nat.mul_mod_left, Nat.mul_div_cancel _ hd, if_pos (by omega)]

lemma roundQuotient_cases (num den : Nat) :
    (roundQuotient num den = num / den ∧ 2 * (num % den) ≤ den ∧
      (2 * (num % den) = den → num / den % 2 = 0)) ∨
    (roundQuotient num den = num / den + 1 ∧ den ≤ 2 * (num % den) ∧
      (2 * (num % den) = den → (num / den + 1) % 2 = 0)) := by
  unfold roundQuotient
  dsimp only
  split
  · exact .inl ⟨rfl, by omega, by omega⟩
  · split
    · exact .inr ⟨rfl, by omega, by omega⟩
    · rcases Nat.mod_two_eq_zero_or_one (num / den) with hq | hq
      · exact .inl ⟨by omega, by omega, fun _ => hq⟩
      · exact .inr ⟨by omega, by omega, by omega⟩

lemma roundQuotient_near (num : Nat) {den : Nat} (hd : 0 < den) :
    2 * ((num : Int) - roundQuotient num den * den).natAbs ≤ den ∧
    (2 * ((num : Int) - roundQuotient num den * den).natAbs = den →
      roundQuotient num den % 2 = 0) := by
  have hmod := Nat.mod_lt num hd
  have hdiv : ((num / den : Nat) : Int) * den + (num % den : Nat) = num := by
    exact_mod_cast Nat.div_add_mod' num den
  rcases roundQuotient_cases num den with ⟨hq, hside, heven⟩ | ⟨hq, hside, heven⟩ <;> rw [hq]
  · exact ⟨by omega, fun ht => heven (by omega)⟩
  · have hnext : ((num / den + 1 : Nat) : Int) * den = (num / den : Nat) * den + den := by
      rw [Nat.cast_add, Nat.cast_one, Int.add_mul, Int.one_mul]
    exact ⟨by omega, fun ht => heven (by omega)⟩

lemma roundQuotient_bounds {num den a b : Nat} (ha : a * den ≤ num) (hb : num < b * den) :
    a ≤ roundQuotient num den ∧ roundQuotient num den ≤ b := by
  have hd : 0 < den := by
    by_contra h
    simp_all
  have hle : a ≤ num / den := (Nat.le_div_iff_mul_le hd).mpr ha
  have hlt : num / den < b := (Nat.div_lt_iff_lt_mul hd).mpr hb
  rcases roundQuotient_cases num den with ⟨hq, -⟩ | ⟨hq, -⟩ <;> omega

lemma log2_mul_pow_two {n : Nat} (hn : n ≠ 0) (p : Nat) :
    (n * Nat.pow 2 p).log2 = n.log2 + p := by
  rw [Nat.pow_eq]
  obtain ⟨hlow, hhigh⟩ := (Nat.log2_eq_iff hn).mp rfl
  have hne : n * 2 ^ p ≠ 0 := Nat.mul_ne_zero hn (Nat.two_pow_pos p).ne'
  refine (Nat.log2_eq_iff hne).mpr ⟨?_, ?_⟩
  · rw [pow_add]
    exact Nat.mul_le_mul_right _ hlow
  · rw [Nat.add_right_comm, pow_add]
    exact Nat.mul_lt_mul_of_pos_right hhigh (Nat.two_pow_pos p)

lemma place_one {n : Nat} (hn : n ≠ 0) (p : Nat) :
    (let l := (n * Nat.pow 2 p).log2 - Nat.log2 1
    if 1 * Nat.pow 2 l ≤ n * Nat.pow 2 p then l else l - 1) = n.log2 + p := by
  have hone : Nat.log2 1 = 0 := by decide
  have hle : 1 * Nat.pow 2 (n.log2 + p) ≤ n * Nat.pow 2 p := by
    rw [Nat.one_mul, Nat.pow_eq, Nat.pow_eq, pow_add]
    exact Nat.mul_le_mul_right _ (Nat.log2_self_le hn)
  simp only [log2_mul_pow_two hn, hone, Nat.sub_zero, if_pos hle]

lemma scaleOf_one {n p : Nat} (hn : n ≠ 0) (hp : 52 + p = 1074) : scaleOf n 1 = n.log2 + p := by
  unfold scaleOf
  rw [← hp]
  exact (congrArg (· - 52) (place_one hn (52 + p))).trans (by omega)

lemma roundsAt_zero {n : Nat} (hn : n < 2 ^ 53) : RoundsAt 0 n n :=
  ⟨.inl rfl, by simpa using hn, by simp, n, by simp, fun h => by simp at h⟩

lemma roundsAt_roundQuotient {n e : Nat} (hlow : 2 ^ 52 * 2 ^ e ≤ n) (hhigh : n < 2 ^ 53 * 2 ^ e) :
    RoundsAt e n (roundQuotient n (2 ^ e) * 2 ^ e : Nat) := by
  obtain ⟨hnear, heven⟩ := roundQuotient_near n (Nat.two_pow_pos e)
  rw [← pow_add] at hlow hhigh
  rw [← Nat.cast_mul] at hnear heven
  refine ⟨.inr hlow, hhigh, hnear, roundQuotient n (2 ^ e), by push_cast; rfl, fun ht => ?_⟩
  exact (Int.even_coe_nat _).mpr (Nat.even_iff.mpr (heven ht))

lemma exists_significand {n p r : Nat} (hn : n ≠ 0)
    (hr : r = roundQuotient (n * 2 ^ (52 + p)) (2 ^ (n.log2 + p))) :
    leading ≤ r ∧ r ≤ 2 * leading ∧
      ∃ s : Nat, Rounds n s ∧ r * 2 ^ (n.log2 + p) = s * 2 ^ (52 + p) := by
  obtain ⟨hlow, hhigh⟩ := (Nat.log2_eq_iff hn).mp rfl
  have hleading : leading = 2 ^ 52 := by decide
  rcases Nat.le_total 52 n.log2 with hl | hl
  · obtain ⟨e, he⟩ := Nat.exists_eq_add_of_le hl
    rw [he, pow_add] at hlow
    rw [he, Nat.add_right_comm, pow_add] at hhigh
    have hden : 2 ^ (n.log2 + p) = 2 ^ e * 2 ^ (52 + p) := by
      rw [he, ← pow_add]
      congr 1
      omega
    rw [hden, roundQuotient_mul_right (Nat.two_pow_pos _)] at hr
    obtain ⟨hle, hge⟩ := roundQuotient_bounds hlow hhigh
    rw [hr, hden]
    exact ⟨by omega, by omega, _, ⟨e, roundsAt_roundQuotient hlow hhigh⟩, (mul_assoc _ _ _).symm⟩
  · obtain ⟨f, hf⟩ := Nat.exists_eq_add_of_le hl
    have hnum : n * 2 ^ (52 + p) = n * 2 ^ f * 2 ^ (n.log2 + p) := by
      rw [mul_assoc, ← pow_add]
      congr 2
      omega
    rw [hnum, roundQuotient_mul_self (Nat.two_pow_pos _)] at hr
    have hle : 2 ^ n.log2 * 2 ^ f ≤ n * 2 ^ f := Nat.mul_le_mul_right _ hlow
    have hlt : n * 2 ^ f < 2 ^ (n.log2 + 1) * 2 ^ f :=
      Nat.mul_lt_mul_of_pos_right hhigh (Nat.two_pow_pos f)
    rw [← pow_add, ← hf] at hle
    rw [← pow_add, Nat.add_right_comm, ← hf] at hlt
    have hshort : n < 2 ^ 53 := hhigh.trans_le (Nat.pow_le_pow_right (by decide) (by omega))
    rw [hr]
    exact ⟨by omega, by omega, n, ⟨0, roundsAt_zero hshort⟩, hnum.symm⟩

def unitsOfOne : Nat := Nat.pow 2 1074

lemma unitsOfOne_eq {p : Nat} (hp : 52 + p = 1074) : unitsOfOne = 2 ^ (52 + p) := by
  unfold unitsOfOne
  rw [← hp, Nat.pow_eq]

lemma unitsOfOne_pos : 0 < unitsOfOne := by
  obtain ⟨p, hp⟩ : ∃ p, 52 + p = 1074 := ⟨1022, rfl⟩
  rw [unitsOfOne_eq hp]
  exact Nat.two_pow_pos _

lemma magnitudeOf_one {n p : Nat} (hn : n ≠ 0) (hp : 52 + p = 1074) : magnitudeOf n 1 = min infinite
    ((n.log2 + p) * leading + roundQuotient (n * 2 ^ (52 + p)) (2 ^ (n.log2 + p))) := by
  rw [magnitudeOf, scaleOf_one hn hp, ← hp, one_mul, Nat.pow_eq, Nat.pow_eq]

lemma magnitudeOf_zero : magnitudeOf 0 1 = 0 := by decide +kernel

lemma exists_rounds {n : Nat} (hl : n.log2 < 1024) :
    ∃ s : Nat, Rounds n s ∧ units (magnitudeOf n 1) = s * unitsOfOne := by
  rcases eq_or_ne n 0 with rfl | hn
  · have hzero : units 0 = 0 := units_of_lt (by decide)
    exact ⟨0, ⟨0, roundsAt_zero (by decide)⟩, by rw [magnitudeOf_zero, hzero, zero_mul]⟩
  · obtain ⟨p, hp⟩ : ∃ p, 52 + p = 1074 := ⟨1022, rfl⟩
    obtain ⟨hle, hge, s, hs, hvalue⟩ := exists_significand (p := p) hn rfl
    have hfinite : (n.log2 + p) * leading + 2 * leading ≤ infinite := by
      rw [← Nat.add_mul]
      exact Nat.mul_le_mul_right _ (by omega)
    refine ⟨s, hs, ?_⟩
    rw [magnitudeOf_one hn hp, min_eq_right ((Nat.add_le_add_left hge _).trans hfinite),
      units_add hle hge, unitsOfOne_eq hp]
    exact hvalue

end Binary64

end BracketQuery
