import BracketQuery.Collection
import BracketQuery.Proofs.Sort.Stable

/-! Entities can be filtered before they are sorted or after it: their order, and that of the ones
that are tied, leaves one list only. -/

namespace BracketQuery

namespace SortOrder

section

variable {α : Type} {order : α → α → Ordering} {s t : α → Prop} {a b x : α} {xs ys : List α}

def tiedTo (order : α → α → Ordering) (a : α) (xs : List α) : List α :=
  xs.filter fun b => order a b == .eq

lemma head_ne_gt (h : IsPreorderOn order s) (hs : ∀ b ∈ x :: xs, s b)
    (hp : (x :: xs).Pairwise fun a b => order a b ≠ .gt) (ha : a ∈ x :: xs) : order x a ≠ .gt := by
  rcases List.mem_cons.mp ha with rfl | ha
  · rw [h.order_self (hs a List.mem_cons_self)]
    decide
  · exact (List.pairwise_cons.mp hp).1 a ha

lemma tiedTo_filter (p : α → Bool) :
    tiedTo order a (xs.filter p) = (tiedTo order a xs).filter p := by
  simp only [tiedTo, List.filter_filter, Bool.and_comm]

/-- A sorted list is known by the order of the items that are tied. -/
lemma eq_of_tiedTo (h : IsPreorderOn order s) (hs : ∀ a ∈ xs, s a) (hp : xs.Perm ys)
    (hx : xs.Pairwise fun a b => order a b ≠ .gt) (hy : ys.Pairwise fun a b => order a b ≠ .gt)
    (ht : ∀ a, tiedTo order a xs = tiedTo order a ys) : xs = ys := by
  induction xs generalizing ys with
  | nil => exact hp.nil_eq
  | cons x xs ih =>
    cases ys with
    | nil => exact hp.eq_nil
    | cons y ys =>
      have hsx := hs x List.mem_cons_self
      have hym := hp.mem_iff.mpr List.mem_cons_self
      have hxm := hp.mem_iff.mp List.mem_cons_self
      have hxy : order x y = .eq := h.antisymm hsx (hs y hym) (head_ne_gt h hs hx hym)
        (head_ne_gt h (fun a ha => hs a (hp.mem_iff.mpr ha)) hy hxm)
      -- each head is the first of the items that are tied to it, and so to the other head
      have hhead := ht x
      rw [tiedTo, tiedTo, List.filter_cons_of_pos (by simp [h.order_self hsx]),
        List.filter_cons_of_pos (by simp [hxy])] at hhead
      obtain rfl : x = y := (List.cons.inj hhead).1
      congr 1
      refine ih (fun a ha => hs a (List.mem_cons_of_mem x ha)) hp.cons_inv hx.tail hy.tail fun a => ?_
      have ha := ht a
      simp only [tiedTo, List.filter_cons] at ha
      split at ha
      · exact (List.cons.inj ha).2
      · exact ha

end

variable {keys : List SortKey} {es : List Json.Value}

lemma tiedTo_stableSort (v : Json.Value) :
    tiedTo (byKeys keys) v (stableSort (byKeys keys) es) = tiedTo (byKeys keys) v es := by
  refine filter_stableSort fun a b ha hb => ?_
  have hav : byKeys keys a v = .eq := by
    rw [byKeys_swap keys v a, beq_iff_eq.mp ha]
    rfl
  rw [byKeys_eq_trans hav (beq_iff_eq.mp hb)]
  decide

lemma filter_stableSort_byKeys (p : Json.Value → Bool) (h : IsPreorderOn (byKeys keys) (· ∈ es)) :
    stableSort (byKeys keys) (es.filter p) = (stableSort (byKeys keys) es).filter p := by
  have hkept : ∀ v ∈ es.filter p, v ∈ es := fun v hv => (List.mem_filter.mp hv).1
  have hfiltered := perm_stableSort (byKeys keys) (es.filter p)
  have hperm := (perm_stableSort (byKeys keys) es).filter p
  refine eq_of_tiedTo h (fun v hv => hkept v (hfiltered.mem_iff.mp hv)) (hfiltered.trans hperm.symm)
    (pairwise_stableSort (h.mono hkept)) ((pairwise_stableSort h).filter p) fun v => ?_
  calc tiedTo (byKeys keys) v (stableSort (byKeys keys) (es.filter p))
      = tiedTo (byKeys keys) v (es.filter p) := tiedTo_stableSort v
    _ = (tiedTo (byKeys keys) v es).filter p := tiedTo_filter p
    _ = (tiedTo (byKeys keys) v (stableSort (byKeys keys) es)).filter p := by rw [tiedTo_stableSort]
    _ = tiedTo (byKeys keys) v ((stableSort (byKeys keys) es).filter p) := (tiedTo_filter p).symm

lemma IsUniform.filter {k : SortKey} (h : IsUniform k es) (p : Json.Value → Bool) :
    IsUniform k (es.filter p) :=
  h.imp (fun h v hv => h v (List.mem_filter.mp hv).1) fun h v hv => h v (List.mem_filter.mp hv).1

end SortOrder

namespace CollectionQuery

open SortOrder

/-- Filtering and sorting change places, if every sort key finds timestamps alone or none. -/
theorem filter_sort_comm (q : CollectionQuery) {es : List Json.Value}
    (h : ∀ k ∈ q.sort, IsUniform k es) :
    ∃ sorted, sortEntities q.sort es = some sorted ∧
      sortEntities q.sort (q.filter.filter es) = some (q.filter.filter sorted) ∧
      q.apply es = some (q.page.apply (q.filter.filter sorted)) := by
  have hkept : sortEntities q.sort (q.filter.filter es) =
      some (q.filter.filter (stableSort (byKeys q.sort) es)) :=
    (sortEntities_of_isUniform fun k hk => (h k hk).filter _).trans
      (congrArg some (filter_stableSort_byKeys _ (isPreorderOn_of_isUniform h)))
  refine ⟨_, sortEntities_of_isUniform h, hkept, ?_⟩
  rw [apply, hkept, Option.map_some]

def laterCrates : CollectionQuery :=
  let name : Leaf := ⟨"name", some "root", "name", .notIn, .ofList ["b", "d"]⟩
  ⟨.condition (.ofLeaf name .membership), latestFirst, ⟨none, none, 1, 3⟩⟩

theorem filter_sort_comm_crates :
    (∀ k ∈ laterCrates.sort, IsUniform k crates) ∧
    ∃ sorted, sortEntities laterCrates.sort crates = some sorted ∧
      sortEntities laterCrates.sort (laterCrates.filter.filter crates) =
        some (laterCrates.filter.filter sorted) ∧
      laterCrates.apply crates = some (laterCrates.page.apply (laterCrates.filter.filter sorted)) ∧
      (laterCrates.apply crates).map (List.map (text? ⟨"name", "name", .ascending⟩)) =
        some [some "a", some "g", some "f"] := by
  have hu : ∀ k ∈ laterCrates.sort, IsUniform k crates := by decide +kernel
  obtain ⟨sorted, hs, hkept, happly⟩ := filter_sort_comm laterCrates hu
  exact ⟨hu, sorted, hs, hkept, happly, by decide +kernel⟩

end CollectionQuery

end BracketQuery
