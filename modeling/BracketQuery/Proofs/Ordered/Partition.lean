import BracketQuery.Proofs.Ordered
import Mathlib.Data.List.Perm.Basic

/-! Grouping by key takes a list apart: every item that has a key is in one group, and both the
groups and the items in them keep their order. -/

namespace BracketQuery

section

variable {α : Type} [DecidableEq α]

structure IsFirstOrder (xs ys : List α) : Prop where
  mem_iff : ∀ x, x ∈ ys ↔ x ∈ xs
  order : ys.Pairwise fun x y => xs.idxOf x < xs.idxOf y

lemma pairwise_idxOf_distinctItems (xs : List α) :
    (distinctItems xs).Pairwise fun x y => xs.idxOf x < xs.idxOf y := by
  induction xs with
  | nil => exact .nil
  | cons x xs ih =>
    have hlater {y : α} (h : y ∈ (distinctItems xs).filter fun y => !decide (x = y)) :
        (x :: xs).idxOf y = xs.idxOf y + 1 := by
      have hne : x ≠ y := by simpa using (List.mem_filter.mp h).2
      exact List.idxOf_cons_ne xs hne
    refine List.pairwise_cons.mpr ⟨fun y hy => ?_, ?_⟩
    · rw [List.idxOf_cons_self, hlater hy]
      exact Nat.succ_pos _
    · refine (ih.filter _).imp_of_mem fun hy hz hlt => ?_
      rw [hlater hy, hlater hz]
      exact Nat.succ_lt_succ hlt

lemma isFirstOrder_distinctItems (xs : List α) : IsFirstOrder xs (distinctItems xs) :=
  ⟨fun _ => mem_distinctItems, pairwise_idxOf_distinctItems xs⟩

lemma IsFirstOrder.unique {xs ys zs : List α} (hy : IsFirstOrder xs ys) (hz : IsFirstOrder xs zs) :
    ys = zs := by
  have hnodup {ws : List α} (h : IsFirstOrder xs ws) : ws.Nodup :=
    h.order.imp fun hlt he => Nat.ne_of_lt hlt (congrArg xs.idxOf he)
  have hperm : ys.Perm zs := (List.perm_ext_iff_of_nodup (hnodup hy) (hnodup hz)).mpr fun x =>
    (hy.mem_iff x).trans (hz.mem_iff x).symm
  exact hperm.eq_of_pairwise (fun x y _ _ hxy hyx => absurd hyx (Nat.lt_asymm hxy)) hy.order hz.order

end

section

variable {κ α : Type} [DecidableEq κ]

lemma perm_flatMap_addToGroup (k : κ) (x : α) (groups : List (κ × List α)) :
    ((addToGroup k x groups).flatMap Prod.snd).Perm (groups.flatMap Prod.snd ++ [x]) := by
  induction groups with
  | nil => exact .refl _
  | cons g groups ih =>
    obtain ⟨l, ys⟩ := g
    rw [addToGroup]
    split
    · simp only [List.flatMap_cons, List.append_assoc]
      exact List.perm_append_comm.append_left ys
    · simp only [List.flatMap_cons, List.append_assoc]
      exact ih.append_left ys

lemma perm_flatMap_groupBy (key : α → Option κ) (xs : List α) :
    ((groupBy key xs).flatMap Prod.snd).Perm (xs.filter fun x => (key x).isSome) := by
  induction xs using List.reverseRecOn with
  | nil => exact .nil
  | append_singleton xs x ih =>
    rw [groupBy_append_singleton, List.filter_append]
    cases hk : key x with
    | none => simpa [hk] using ih
    | some k =>
      have hx : [x].filter (fun y => (key y).isSome) = [x] := by simp [hk]
      rw [hx]
      exact (perm_flatMap_addToGroup k x _).trans (ih.append_right [x])

lemma mem_flatMap_groupBy {key : α → Option κ} {xs : List α} {x : α} :
    x ∈ (groupBy key xs).flatMap Prod.snd ↔ x ∈ xs ∧ (key x).isSome := by
  rw [(perm_flatMap_groupBy key xs).mem_iff, List.mem_filter]

lemma ne_nil_of_mem_groupBy {key : α → Option κ} {xs : List α} {g : κ × List α}
    (h : g ∈ groupBy key xs) : g.2 ≠ [] := by
  have hk : g.1 ∈ (groupBy key xs).map Prod.fst := List.mem_map_of_mem h
  rw [map_fst_groupBy, mem_distinctItems] at hk
  rw [snd_of_mem_groupBy h, ne_eq, filter_key_eq_nil_iff, not_not]
  exact hk

/-- A list taken apart by key. There is a group for every key of an item, in the order in which
the keys first occur, and it has the items of its key, in their order. -/
structure IsPartition (key : α → Option κ) (xs : List α) (groups : List (κ × List α)) : Prop where
  keys : IsFirstOrder (xs.filterMap key) (groups.map Prod.fst)
  items : ∀ g ∈ groups, g.2 = xs.filter fun x => key x = some g.1
  nonempty : ∀ g ∈ groups, g.2 ≠ []
  missing : ∀ x ∈ xs, (∀ g ∈ groups, x ∉ g.2) ↔ key x = none
  perm : (groups.flatMap Prod.snd).Perm (xs.filter fun x => (key x).isSome)

lemma IsPartition.eq_map {key : α → Option κ} {xs : List α} {groups : List (κ × List α)}
    (h : IsPartition key xs groups) :
    groups = (groups.map Prod.fst).map fun k => (k, xs.filter fun x => key x = some k) := by
  rw [List.map_map]
  refine (List.map_id groups).symm.trans (List.map_congr_left fun g hg => ?_)
  exact Prod.ext rfl (h.items g hg)

/-- Grouping by key is the one way to take a list apart by key. -/
theorem eq_groupBy_iff_isPartition (key : α → Option κ) (xs : List α)
    (groups : List (κ × List α)) : groups = groupBy key xs ↔ IsPartition key xs groups := by
  constructor
  · rintro rfl
    refine ⟨?_, fun _ => snd_of_mem_groupBy, fun _ => ne_nil_of_mem_groupBy, fun x hx => ?_,
      perm_flatMap_groupBy key xs⟩
    · rw [map_fst_groupBy]
      exact isFirstOrder_distinctItems _
    · have hmem : x ∈ (groupBy key xs).flatMap Prod.snd ↔ (key x).isSome := by
        rw [mem_flatMap_groupBy, and_iff_right hx]
      simp only [← Option.not_isSome_iff_eq_none, ← hmem, List.mem_flatMap, not_exists, not_and]
  · intro h
    have hkeys : groups.map Prod.fst = distinctItems (xs.filterMap key) :=
      h.keys.unique (isFirstOrder_distinctItems _)
    rw [groupBy_eq, ← hkeys]
    exact h.eq_map

example : groupBy (fun p : String × Nat => if p.1 = "" then none else some p.1)
    [("b", 1), ("a", 2), ("b", 3), ("", 4)] =
      [("b", [("b", 1), ("b", 3)]), ("a", [("a", 2)])] := by decide

end

end BracketQuery
