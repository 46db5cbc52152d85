import Mathlib.Tactic.Lemma

/-! Climbing from a group to its parents. Above a group that reaches the top there is no cycle. -/

namespace BracketQuery

def climb (parent : String → Option String) : Nat → String → Option String
  | 0, g => some g
  | n + 1, g => (parent g).bind (climb parent n)

section

variable {parent : String → Option String} {top g h : String} {m n d : Nat}

lemma climb_add (parent : String → Option String) (m n : Nat) (g : String) :
    climb parent (m + n) g = (climb parent m g).bind (climb parent n) := by
  induction m generalizing g with
  | zero => simp [climb]
  | succ m ih =>
    rw [Nat.succ_add, climb, climb]
    cases parent g with
    | none => rfl
    | some p => exact ih p

lemma climb_one (parent : String → Option String) (g : String) : climb parent 1 g = parent g := by
  simp [climb]

lemma climb_trans (hm : climb parent m g = some h) : climb parent (m + n) g = climb parent n h := by
  rw [climb_add, hm, Option.bind_some]

lemma climb_succ_eq (parent : String → Option String) (n : Nat) (g p : String) :
    climb parent (n + 1) g = some p ↔ ∃ c, climb parent n g = some c ∧ parent c = some p := by
  rw [climb_add, Option.bind_eq_some_iff]
  simp only [climb_one]

lemma climb_top (ht : parent top = none) (hn : climb parent n top = some g) : n = 0 := by
  cases n with
  | zero => rfl
  | succ n => simp [climb, ht] at hn

lemma climb_le (ht : parent top = none) (hm : climb parent m g = some top)
    (hn : climb parent n g = some h) : n ≤ m := by
  refine Nat.le_of_not_lt fun hlt => ?_
  obtain ⟨k, rfl⟩ : ∃ k, n = m + (k + 1) := ⟨n - m - 1, by omega⟩
  rw [climb_trans hm] at hn
  have := climb_top ht hn
  omega

lemma climb_unique (ht : parent top = none) (hm : climb parent m g = some top)
    (hn : climb parent n g = some top) : m = n :=
  Nat.le_antisymm (climb_le ht hn hm) (climb_le ht hm hn)

lemma exists_climb_of_le (hn : climb parent n g = some h) (hm : m ≤ n) :
    ∃ c, climb parent m g = some c ∧ climb parent (n - m) c = some h := by
  rw [← Nat.add_sub_cancel' hm, climb_add] at hn
  obtain ⟨c, hc, hrest⟩ := Option.bind_eq_some_iff.mp hn
  exact ⟨c, hc, hrest⟩

lemma exists_parent_of_lt (hn : climb parent n g = some h) (hm : m < n) :
    ∃ c p, climb parent m g = some c ∧ parent c = some p := by
  obtain ⟨p, hp, -⟩ := exists_climb_of_le hn hm
  obtain ⟨c, hc, hcp⟩ := (climb_succ_eq parent m g p).mp hp
  exact ⟨c, p, hc, hcp⟩

lemma climb_injective (ht : parent top = none) (hd : climb parent d g = some top) (hm : m ≤ d)
    (hn : n ≤ d) (h : climb parent m g = climb parent n g) : m = n := by
  obtain ⟨b, hb, hbtop⟩ := exists_climb_of_le hd hm
  obtain ⟨c, hc, hctop⟩ := exists_climb_of_le hd hn
  rw [hb, hc] at h
  obtain rfl := Option.some.inj h
  have := climb_unique ht hbtop hctop
  omega

lemma climb_no_cycle (ht : parent top = none) (hd : climb parent d g = some top)
    (hn : climb parent n g = some g) : n = 0 := by
  have h := climb_unique ht hd ((climb_trans hn).trans hd)
  omega

lemma climb_same_depth {a b p : String} (ht : parent top = none) (hd : climb parent d p = some top)
    (ha : climb parent m g = some a) (hb : climb parent n g = some b) (hpa : parent a = some p)
    (hpb : parent b = some p) : a = b := by
  have depth {k : Nat} {c : String} (hc : climb parent k g = some c) (hp : parent c = some p) :
      climb parent (k + 1 + d) g = some top := by
    rw [climb_trans ((climb_succ_eq parent k g p).mpr ⟨c, hc, hp⟩), hd]
  have hmn := climb_unique ht (depth ha hpa) (depth hb hpb)
  obtain rfl : m = n := by omega
  exact Option.some.inj (ha.symm.trans hb)

end

end BracketQuery
