import BracketQuery.Text.CaseFolding
import Mathlib.Tactic.Lemma

/-! Texts that differ only in case. A character without a case partner stays itself. -/

namespace BracketQuery

namespace CharSet

def covers (n : Nat) (r : Nat × Nat) : Bool := r.1 ≤ n && n ≤ r.2

lemma insertRange_ordered {lo hi : Nat} {rs : List (Nat × Nat)} (h : lo ≤ hi)
    (hrs : ∀ r ∈ rs, r.1 ≤ r.2) : ∀ r ∈ insertRange lo hi rs, r.1 ≤ r.2 := by
  induction rs generalizing lo hi with
  | nil => simpa [insertRange] using h
  | cons r rs ih =>
    obtain ⟨a, b⟩ := r
    have hab : a ≤ b := hrs (a, b) (by simp)
    have hrs' : ∀ r ∈ rs, r.1 ≤ r.2 := fun r hr => hrs r (by simp [hr])
    unfold insertRange
    split
    · simpa using ⟨h, hab, fun a b hr => hrs' (a, b) hr⟩
    · split
      · simpa using ⟨hab, fun a b hr => ih h hrs' (a, b) hr⟩
      · exact ih (by omega) hrs'

lemma foldl_insertRange_ordered {ts rs : List (Nat × Nat)} (ht : ∀ r ∈ ts, r.1 ≤ r.2)
    (hr : ∀ r ∈ rs, r.1 ≤ r.2) :
    ∀ r ∈ ts.foldl (fun acc r => insertRange r.1 r.2 acc) rs, r.1 ≤ r.2 := by
  induction ts generalizing rs with
  | nil => exact hr
  | cons t ts ih =>
    exact ih (fun r hm => ht r (by simp [hm])) (insertRange_ordered (ht t (by simp)) hr)

lemma any_covers_foldl (n : Nat) {ts rs : List (Nat × Nat)} (ht : ∀ r ∈ ts, r.1 ≤ r.2)
    (hr : ∀ r ∈ rs, r.1 ≤ r.2) :
    (ts.foldl (fun acc r => insertRange r.1 r.2 acc) rs).any (covers n) =
      (rs.any (covers n) || ts.any (covers n)) := by
  induction ts generalizing rs with
  | nil => simp
  | cons t ts ih =>
    have h := ht t (by simp)
    rw [List.foldl_cons, ih (fun r hm => ht r (by simp [hm])) (insertRange_ordered h hr)]
    have hi : (insertRange t.1 t.2 rs).any (covers n) = (covers n t || rs.any (covers n)) :=
      any_insertRange n t.1 t.2 h rs hr
    rw [hi, List.any_cons, Bool.or_comm (covers n t), Bool.or_assoc]

lemma contains_union {s t : CharSet} (hs : ∀ r ∈ s.ranges, r.1 ≤ r.2)
    (ht : ∀ r ∈ t.ranges, r.1 ≤ r.2) (c : Char) :
    (s.union t).contains c = (s.contains c || t.contains c) :=
  any_covers_foldl c.toNat ht hs

end CharSet

namespace CaseRun

lemma pick_bounds {first last step lo hi : Nat} {move : Nat → Nat} {r : Nat × Nat}
    (h : r ∈ pick first last step lo hi move) :
    ∃ x y, r = (move x, move y) ∧ first ≤ x ∧ x ≤ y ∧ y ≤ last := by
  have hfirst : first ≤ if lo ≤ first then first else first + (lo - first + step - 1) / step * step := by
    split <;> omega
  unfold pick at h
  generalize (if lo ≤ first then first else first + (lo - first + step - 1) / step * step) = a at *
  dsimp only at h
  split at h
  · cases h
  · split at h
    · obtain rfl := List.mem_singleton.mp h
      exact ⟨a, min hi last, rfl, hfirst, by omega, by omega⟩
    · obtain ⟨i, hi', rfl⟩ := List.mem_map.mp h
      have hle : i ≤ (min hi last - a) / step := Nat.lt_succ_iff.mp (List.mem_range.mp hi')
      have hmul : i * step ≤ min hi last - a :=
        Nat.le_trans (Nat.mul_le_mul_right step hle) (Nat.div_mul_le_self _ _)
      exact ⟨a + i * step, a + i * step, rfl, by omega, Nat.le_refl _, by omega⟩

lemma partners_bounds {run : CaseRun} {lo hi : Nat} {r : Nat × Nat} (h : r ∈ run.partners lo hi) :
    r.1 ≤ r.2 ∧ ((run.first ≤ r.1 ∧ r.2 ≤ run.last) ∨
      (run.first + run.shift ≤ r.1 ∧ r.2 ≤ run.last + run.shift)) := by
  rcases List.mem_append.mp h with h | h
  · obtain ⟨x, y, rfl, hx, hxy, hy⟩ := pick_bounds h
    exact ⟨by simpa using hxy, .inr ⟨by simpa using hx, by simpa using hy⟩⟩
  · obtain ⟨x, y, rfl, hx, hxy, hy⟩ := pick_bounds h
    dsimp only
    exact ⟨by omega, .inl ⟨by omega, by omega⟩⟩

def isUncased (d : Char) : Bool :=
  table.all fun run =>
    !((run.first ≤ d.toNat && d.toNat ≤ run.last) ||
      (run.first + run.shift ≤ d.toNat && d.toNat ≤ run.last + run.shift))

end CaseRun

namespace CharSet

lemma allPartners_ordered {lo hi : Nat} {r : Nat × Nat} (h : r ∈ CaseRun.allPartners lo hi) :
    r.1 ≤ r.2 := by
  obtain ⟨run, -, hr⟩ := List.mem_flatMap.mp h
  exact (CaseRun.partners_bounds hr).1

lemma foldCase_single (c : Char) :
    (single c).foldCase = (single c).union ⟨CaseRun.allPartners c.toNat c.toNat⟩ := by
  simp [foldCase, single]

lemma contains_foldCase_single (c d : Char) :
    (single c).foldCase.contains d =
      ((single c).contains d || (⟨CaseRun.allPartners c.toNat c.toNat⟩ : CharSet).contains d) := by
  rw [foldCase_single]
  exact contains_union (by simp [single]) (fun r hr => allPartners_ordered hr) d

lemma foldCase_single_ordered (c : Char) : ∀ r ∈ (single c).foldCase.ranges, r.1 ≤ r.2 := by
  rw [foldCase_single]
  exact foldl_insertRange_ordered (fun r hr => allPartners_ordered hr) (by simp [single])

@[simp] lemma contains_foldCase_self (c : Char) : (single c).foldCase.contains c = true := by
  simp [contains_foldCase_single]

lemma eq_of_contains_foldCase {c d : Char} (hd : CaseRun.isUncased d)
    (h : (single c).foldCase.contains d = true) : d = c := by
  rw [contains_foldCase_single, Bool.or_eq_true] at h
  rcases h with h | h
  · simpa using h
  · obtain ⟨r, hr, hc⟩ := List.any_eq_true.mp h
    obtain ⟨run, hm, hr⟩ := List.mem_flatMap.mp hr
    have hb := (CaseRun.partners_bounds hr).2
    have ht := List.all_eq_true.mp hd run ((List.takeWhile_prefix _).subset hm)
    simp only [Bool.and_eq_true, decide_eq_true_eq, Bool.not_eq_true', Bool.or_eq_false_iff,
      Bool.and_eq_false_iff, decide_eq_false_iff_not] at hc ht
    omega

def isApart (s t : CharSet) : Bool :=
  s.ranges.all fun r => t.ranges.all fun q => r.2 < q.1 || q.2 < r.1

lemma not_contains_of_isApart {s t : CharSet} {c : Char} (h : s.isApart t = true)
    (hc : t.contains c = true) : s.contains c = false := by
  obtain ⟨q, hq, hcq⟩ := List.any_eq_true.mp hc
  refine List.any_eq_false.mpr fun r hr hcr => ?_
  have ha := List.all_eq_true.mp (List.all_eq_true.mp h r hr) q hq
  simp only [Bool.and_eq_true, decide_eq_true_eq, Bool.or_eq_true] at hcq hcr ha
  omega

end CharSet

namespace Text

def foldsTo : List Char → List Char → Bool
  | [], [] => true
  | c :: s, d :: t => (CharSet.single c).foldCase.contains d && foldsTo s t
  | _, _ => false

lemma foldsTo_self (s : List Char) : foldsTo s s = true := by
  induction s with
  | nil => rfl
  | cons c s ih => simp [foldsTo, ih]

lemma foldsTo_cons_left {c : Char} {s t : List Char} (h : foldsTo (c :: s) t = true) :
    ∃ d r, t = d :: r ∧ (CharSet.single c).foldCase.contains d = true ∧ foldsTo s r = true := by
  cases t with
  | nil => cases h
  | cons d r => exact ⟨d, r, rfl, by simpa [foldsTo] using h⟩

lemma eq_nil_of_foldsTo {t : List Char} (h : foldsTo [] t = true) : t = [] := by
  cases t with
  | nil => rfl
  | cons d r => cases h

lemma exists_mem_of_foldsTo {s t : List Char} {d : Char} (h : foldsTo s t = true) (hd : d ∈ t) :
    ∃ c ∈ s, (CharSet.single c).foldCase.contains d = true := by
  induction s generalizing t with
  | nil =>
    rw [eq_nil_of_foldsTo h] at hd
    cases hd
  | cons c s ih =>
    obtain ⟨e, r, rfl, hc, hr⟩ := foldsTo_cons_left h
    rcases List.mem_cons.mp hd with rfl | hd
    · exact ⟨c, List.mem_cons_self, hc⟩
    · obtain ⟨b, hb, hbd⟩ := ih hr hd
      exact ⟨b, List.mem_cons_of_mem c hb, hbd⟩

lemma not_mem_of_foldsTo {s t : List Char} {d : Char} (hd : CaseRun.isUncased d)
    (h : foldsTo s t = true) (hs : d ∉ s) : d ∉ t := by
  intro ht
  obtain ⟨c, hc, hcd⟩ := exists_mem_of_foldsTo h ht
  obtain rfl := CharSet.eq_of_contains_foldCase hd hcd
  exact hs hc

def clash (s t : List Char) : Bool :=
  (s.zip t).any fun p => !(CharSet.single p.1).foldCase.contains p.2

lemma not_clash_of_foldsTo {s t : List Char} (rest : List Char) (h : foldsTo s t = true) :
    clash s (t ++ rest) = false := by
  induction s generalizing t with
  | nil => rfl
  | cons c s ih =>
    obtain ⟨d, r, rfl, hc, hr⟩ := foldsTo_cons_left h
    rw [List.cons_append, clash, List.zip_cons_cons, List.any_cons, hc]
    exact ih hr

lemma foldsTo_length {s t : List Char} (h : foldsTo s t = true) : t.length = s.length := by
  induction s generalizing t with
  | nil => rw [eq_nil_of_foldsTo h]
  | cons c s ih =>
    obtain ⟨d, r, rfl, -, hr⟩ := foldsTo_cons_left h
    rw [List.length_cons, List.length_cons, ih hr]

def apart (s t : List Char) : Bool :=
  (s.zip t).any fun p => (CharSet.single p.1).foldCase.isApart (CharSet.single p.2).foldCase

lemma clash_of_apart {s t u : List Char} (h : apart s t = true) (ht : foldsTo t u = true) :
    clash s u = true := by
  induction s generalizing t u with
  | nil => cases h
  | cons c s ih =>
    cases t with
    | nil => cases h
    | cons d t =>
      obtain ⟨e, r, rfl, he, hr⟩ := foldsTo_cons_left ht
      rw [apart, List.zip_cons_cons, List.any_cons, Bool.or_eq_true] at h
      rw [clash, List.zip_cons_cons, List.any_cons, Bool.or_eq_true]
      refine h.imp (fun ha => ?_) fun ha => ih ha hr
      rw [CharSet.not_contains_of_isApart ha he]
      rfl

lemma foldsTo_append {s t u v : List Char} (h : foldsTo s t = true) (hu : foldsTo u v = true) :
    foldsTo (s ++ u) (t ++ v) = true := by
  induction s generalizing t with
  | nil =>
    rw [eq_nil_of_foldsTo h]
    exact hu
  | cons c s ih =>
    obtain ⟨d, r, rfl, hd, hr⟩ := foldsTo_cons_left h
    simp [foldsTo, hd, ih hr]

lemma clash_append {s t : List Char} (rest : List Char) (h : clash s t = true) :
    clash s (t ++ rest) = true := by
  induction s generalizing t with
  | nil => cases h
  | cons c s ih =>
    cases t with
    | nil => cases h
    | cons d t =>
      rw [clash, List.zip_cons_cons, List.any_cons, Bool.or_eq_true] at h
      rw [List.cons_append, clash, List.zip_cons_cons, List.any_cons, Bool.or_eq_true]
      exact h.imp_right ih

end Text

end BracketQuery
