import BracketQuery.Ordered
import Mathlib.Data.List.Induction
import Mathlib.Data.List.Pairwise
import Mathlib.Tactic.Lemma

/-! Distinct items, and items by key, in closed form. -/

namespace BracketQuery

lemma firsts_of_pairwise {α : Type} {alike : α → α → Bool} {xs : List α}
    (h : xs.Pairwise fun x y => alike x y = false) : firsts alike xs = xs := by
  induction xs with
  | nil => rfl
  | cons x xs ih =>
    rw [List.pairwise_cons] at h
    rw [firsts, ih h.2, List.filter_eq_self.mpr]
    intro y hy
    simp [h.1 y hy]

lemma mem_of_mem_firsts {α : Type} {alike : α → α → Bool} {x : α} {xs : List α}
    (h : x ∈ firsts alike xs) : x ∈ xs := by
  induction xs with
  | nil => exact h
  | cons y xs ih =>
    rcases List.mem_cons.mp h with rfl | h
    · exact List.mem_cons_self
    · exact List.mem_cons_of_mem _ (ih (List.mem_filter.mp h).1)

lemma firsts_append_singleton {α : Type} (alike : α → α → Bool) (xs : List α) (x : α) :
    firsts alike (xs ++ [x]) =
      if xs.any (alike · x) then firsts alike xs else firsts alike xs ++ [x] := by
  induction xs with
  | nil => rfl
  | cons y xs ih =>
    rw [List.cons_append, firsts, ih]
    cases hxs : xs.any (alike · x) <;> cases hy : alike y x <;> simp [firsts, hxs, hy]

lemma pairwise_firsts {α : Type} (alike : α → α → Bool) (xs : List α) :
    (firsts alike xs).Pairwise fun x y => alike x y = false := by
  induction xs with
  | nil => exact .nil
  | cons x xs ih =>
    rw [firsts, List.pairwise_cons]
    refine ⟨fun y hy => ?_, ih.filter _⟩
    rw [← Bool.not_eq_true']
    exact (List.mem_filter.mp hy).2

def newItems {α : Type} (alike : α → α → Bool) (xs : List α) : List α :=
  (xs.zipIdx.filter fun p => !(xs.take p.2).any (alike · p.1)).map Prod.fst

lemma firsts_eq_newItems {α : Type} (alike : α → α → Bool) (xs : List α) :
    firsts alike xs = newItems alike xs := by
  induction xs using List.reverseRecOn with
  | nil => rfl
  | append_singleton xs x ih =>
    have hbefore : ∀ p ∈ xs.zipIdx, (!((xs ++ [x]).take p.2).any (alike · p.1)) =
        !(xs.take p.2).any (alike · p.1) := by
      intro p hp
      rw [List.take_append_of_le_length (Nat.le_of_lt (List.snd_lt_of_mem_zipIdx hp))]
    rw [firsts_append_singleton, ih, newItems, newItems, List.zipIdx_append, List.filter_append,
      List.map_append, List.filter_congr hbefore]
    cases hx : xs.any (alike · x) <;> simp [hx]

lemma find?_of_mem_firsts {α β : Type} [DecidableEq β] {key : α → β} {x : α} {xs : List α}
    (h : x ∈ firsts (fun y z => key y == key z) xs) : xs.find? (fun y => key y == key x) = some x := by
  induction xs with
  | nil => cases h
  | cons y xs ih =>
    rcases List.mem_cons.mp h with rfl | h
    · simp
    · obtain ⟨hx, hne⟩ := List.mem_filter.mp h
      rw [List.find?_cons_of_neg (by simpa using hne), ih hx]

lemma exists_mem_firsts {α : Type} {alike : α → α → Bool} {p : α → Prop}
    (hp : ∀ x y, alike x y = true → p y → p x) {x : α} {xs : List α} (hx : x ∈ xs) (h : p x) :
    ∃ y ∈ firsts alike xs, p y := by
  induction xs with
  | nil => cases hx
  | cons z xs ih =>
    rw [firsts]
    rcases List.mem_cons.mp hx with rfl | hx
    · exact ⟨x, List.mem_cons_self, h⟩
    · obtain ⟨y, hy, hpy⟩ := ih hx
      cases hz : alike z y with
      | true => exact ⟨z, List.mem_cons_self, hp z y hz hpy⟩
      | false => exact ⟨y, List.mem_cons_of_mem _ (List.mem_filter.mpr ⟨hy, by simp [hz]⟩), hpy⟩

section

variable {α : Type} [DecidableEq α]

def distinctItems (xs : List α) : List α := firsts (fun x y => decide (x = y)) xs

@[simp] lemma mem_distinctItems {x : α} {xs : List α} : x ∈ distinctItems xs ↔ x ∈ xs := mem_firsts

lemma nodup_distinctItems (xs : List α) : (distinctItems xs).Nodup := nodup_firsts xs

lemma map_firsts {β : Type} (key : β → α) (xs : List β) :
    (firsts (fun x y => key x == key y) xs).map key = distinctItems (xs.map key) := by
  induction xs with
  | nil => rfl
  | cons x xs ih =>
    rw [List.map_cons, distinctItems, firsts, firsts, List.map_cons, ← distinctItems, ← ih,
      List.filter_map]
    rfl

lemma distinctItems_append_singleton (xs : List α) (x : α) :
    distinctItems (xs ++ [x]) =
      if x ∈ xs then distinctItems xs else distinctItems xs ++ [x] := by
  rw [distinctItems, firsts_append_singleton]
  simp [distinctItems]

lemma distinctItems_append {xs ys : List α} (h : ∀ x ∈ xs, x ∉ ys) :
    distinctItems (xs ++ ys) = distinctItems xs ++ distinctItems ys := by
  unfold distinctItems
  induction xs with
  | nil => rfl
  | cons x xs ih =>
    have hx : ∀ y ∈ firsts (fun x y => decide (x = y)) ys, (!decide (x = y)) = true := by
      intro y hy
      have hne : x ≠ y := fun he => h x List.mem_cons_self (he ▸ mem_of_mem_firsts hy)
      simp [hne]
    rw [List.cons_append, firsts, firsts, ih fun y hy => h y (List.mem_cons_of_mem x hy),
      List.filter_append, List.filter_eq_self.mpr hx, List.cons_append]

lemma distinctItems_append_of_subset {xs ys : List α} (h : ys ⊆ xs) :
    distinctItems (xs ++ ys) = distinctItems xs := by
  induction ys using List.reverseRecOn with
  | nil => rw [List.append_nil]
  | append_singleton ys y ih =>
    obtain ⟨hys, hy⟩ := List.append_subset.mp h
    have hmem : y ∈ xs ++ ys := List.mem_append_left ys (hy List.mem_cons_self)
    rw [← List.append_assoc, distinctItems_append_singleton, if_pos hmem, ih hys]

lemma filter_distinctItems (p : α → Bool) (xs : List α) :
    (distinctItems xs).filter p = distinctItems (xs.filter p) := by
  unfold distinctItems
  induction xs with
  | nil => rfl
  | cons x xs ih =>
    rw [firsts, List.filter_cons, List.filter_cons, List.filter_filter]
    cases hp : p x with
    | true =>
      rw [if_pos rfl, if_pos rfl, firsts, ← ih, List.filter_filter]
      simp only [Bool.and_comm]
    | false =>
      rw [if_neg (by simp), if_neg (by simp), ← ih]
      apply List.filter_congr
      intro y _
      by_cases hy : x = y
      · simp [← hy, hp]
      · simp [hy]

lemma distinctItems_flatMap {β γ : Type} {xs : List β} {key : β → α} {texts : β → List γ}
    (hn : (xs.map key).Nodup) (ht : ∀ x ∈ xs, texts x ≠ []) :
    distinctItems (xs.flatMap fun x => (texts x).map fun _ => key x) = xs.map key := by
  induction xs with
  | nil => rfl
  | cons x xs ih =>
    rw [List.map_cons, List.nodup_cons] at hn
    obtain ⟨v, vs, hv⟩ := List.exists_cons_of_ne_nil (ht x (by simp))
    have hrest : (xs.flatMap fun y => (texts y).map fun _ => key y).filter
        (fun k => !decide (key x = k)) = xs.flatMap fun y => (texts y).map fun _ => key y := by
      rw [List.filter_eq_self]
      intro k hk
      obtain ⟨y, hy, hk⟩ := List.mem_flatMap.mp hk
      obtain ⟨-, -, rfl⟩ := List.mem_map.mp hk
      have hne : key x ≠ key y := fun he => hn.1 (he ▸ List.mem_map_of_mem hy)
      simp [hne]
    have hvs : (vs.map fun _ => key x).filter (fun k => !decide (key x = k)) = [] := by
      rw [List.filter_eq_nil_iff]
      intro k hk
      obtain ⟨-, -, rfl⟩ := List.mem_map.mp hk
      simp
    have hi := ih hn.2 fun y hy => ht y (by simp [hy])
    rw [List.flatMap_cons, hv, List.map_cons, List.cons_append, distinctItems, firsts]
    exact congrArg _ ((filter_distinctItems _ _).trans (by
      rw [List.filter_append, hvs, hrest, List.nil_append, hi]))

end

lemma filter_flatMap_of_nodup {α β κ : Type} [DecidableEq κ] {xs : List α} {f : α → List β}
    {key : β → κ} {name : α → κ} (hn : (xs.map name).Nodup)
    (hk : ∀ x ∈ xs, ∀ y ∈ f x, key y = name x) {x : α} (hx : x ∈ xs) :
    (xs.flatMap f).filter (fun y => key y = name x) = f x := by
  induction xs with
  | nil => cases hx
  | cons z xs ih =>
    rw [List.map_cons, List.nodup_cons] at hn
    rw [List.flatMap_cons, List.filter_append]
    rcases List.mem_cons.mp hx with rfl | hx
    · have hself : (f x).filter (fun y => key y = name x) = f x :=
        List.filter_eq_self.mpr fun y hy => by simpa using hk x (by simp) y hy
      have hrest : (xs.flatMap f).filter (fun y => key y = name x) = [] := by
        rw [List.filter_eq_nil_iff]
        intro y hy
        obtain ⟨w, hw, hyw⟩ := List.mem_flatMap.mp hy
        have hne : name w ≠ name x := fun he => hn.1 (he ▸ List.mem_map_of_mem hw)
        simpa [hk w (by simp [hw]) y hyw] using hne
      rw [hself, hrest, List.append_nil]
    · have hnone : (f z).filter (fun y => key y = name x) = [] := by
        rw [List.filter_eq_nil_iff]
        intro y hy
        have hne : name z ≠ name x := fun he => hn.1 (he ▸ List.mem_map_of_mem hx)
        simpa [hk z (by simp) y hy] using hne
      rw [hnone, List.nil_append, ih hn.2 (fun w hw => hk w (by simp [hw])) hx]

section

variable {κ α : Type} [DecidableEq κ]

lemma addToGroup_of_not_mem {k : κ} {x : α} {gs : List (κ × List α)}
    (h : k ∉ gs.map Prod.fst) : addToGroup k x gs = gs ++ [(k, [x])] := by
  induction gs with
  | nil => rfl
  | cons g gs ih =>
    simp only [List.map_cons, List.mem_cons, not_or] at h
    simp [addToGroup, Ne.symm h.1, ih h.2]

lemma addToGroup_map {k : κ} {x : α} {ks : List κ} (f : κ → List α) (hk : k ∈ ks) (hn : ks.Nodup) :
    addToGroup k x (ks.map fun l => (l, f l)) =
      ks.map fun l => (l, if l = k then f l ++ [x] else f l) := by
  induction ks with
  | nil => cases hk
  | cons l ks ih =>
    rw [List.nodup_cons] at hn
    by_cases hl : l = k
    · subst hl
      simp only [List.map_cons, addToGroup, if_true, List.cons.injEq, true_and]
      apply List.map_congr_left
      intro m hm
      have hne : m ≠ l := fun he => hn.1 (he ▸ hm)
      simp [hne]
    · have hm : k ∈ ks := (List.mem_cons.mp hk).resolve_left (Ne.symm hl)
      simp [addToGroup, hl, ih hm hn.2]

lemma groupBy_append_singleton (key : α → Option κ) (xs : List α) (x : α) :
    groupBy key (xs ++ [x]) = match key x with
      | some k => addToGroup k x (groupBy key xs)
      | none => groupBy key xs := by
  rw [groupBy, List.foldl_append]
  rfl

lemma filter_key_append_singleton (key : α → Option κ) (xs : List α) (x : α) (k : κ) :
    (xs ++ [x]).filter (fun y => key y = some k) =
      if key x = some k then xs.filter (fun y => key y = some k) ++ [x]
      else xs.filter fun y => key y = some k := by
  by_cases hk : key x = some k <;> simp [List.filter_append, hk]

lemma filter_key_eq_nil_iff {key : α → Option κ} {xs : List α} {k : κ} :
    xs.filter (fun x => key x = some k) = [] ↔ k ∉ xs.filterMap key := by
  simp [List.filter_eq_nil_iff, List.mem_filterMap]

lemma groupBy_eq (key : α → Option κ) (xs : List α) :
    groupBy key xs =
      (distinctItems (xs.filterMap key)).map fun k => (k, xs.filter fun x => key x = some k) := by
  induction xs using List.reverseRecOn with
  | nil => rfl
  | append_singleton xs x ih =>
    rw [groupBy_append_singleton, ih, List.filterMap_append]
    simp only [filter_key_append_singleton, List.filterMap_cons, List.filterMap_nil]
    cases hk : key x with
    | none => simp
    | some k =>
      simp only [distinctItems_append_singleton, Option.some.injEq]
      split
      · next hm =>
        rw [addToGroup_map _ (mem_distinctItems.mpr hm) (nodup_distinctItems _)]
        apply List.map_congr_left
        intro l _
        simp only [eq_comm, apply_ite (Prod.mk l)]
      · next hm =>
        have hnew : k ∉ ((distinctItems (xs.filterMap key)).map
            fun l => (l, xs.filter fun y => key y = some l)).map Prod.fst := by
          simpa [Function.comp_def] using hm
        rw [addToGroup_of_not_mem hnew, List.map_append, List.map_singleton, if_pos rfl,
          filter_key_eq_nil_iff.mpr hm, List.nil_append]
        congr 1
        apply List.map_congr_left
        intro l hl
        have hne : k ≠ l := by
          rintro rfl
          exact hm (mem_distinctItems.mp hl)
        rw [if_neg hne]

lemma groupBy_map {β : Type} (key : α → Option κ) (f : β → α) (xs : List β) :
    groupBy key (xs.map f) = (groupBy (fun x => key (f x)) xs).map fun g => (g.1, g.2.map f) := by
  simp [groupBy_eq, List.filterMap_map, List.filter_map, Function.comp_def]

lemma map_fst_groupBy (key : α → Option κ) (xs : List α) :
    (groupBy key xs).map Prod.fst = distinctItems (xs.filterMap key) := by
  rw [groupBy_eq, List.map_map]
  exact List.map_id _

lemma snd_of_mem_groupBy {key : α → Option κ} {xs : List α} {g : κ × List α}
    (h : g ∈ groupBy key xs) : g.2 = xs.filter fun x => key x = some g.1 := by
  rw [groupBy_eq] at h
  obtain ⟨k, -, rfl⟩ := List.mem_map.mp h
  rfl

lemma nodup_keys_groupBy (key : α → Option κ) (xs : List α) :
    ((groupBy key xs).map Prod.fst).Nodup := by
  rw [map_fst_groupBy]
  exact nodup_distinctItems _

end

section

variable {κ α σ : Type} (set : σ → κ → α → σ)

def setLast (s : σ) (g : κ × List α) : σ :=
  match g.2.getLast? with
  | some x => set s g.1 x
  | none => s

/-- What an item makes of a state under its key; without a key it makes nothing of it. -/
def setKeyed (key : α → Option κ) (s : σ) (x : α) : σ :=
  match key x with
  | some k => set s k x
  | none => s

variable {set} (hcomm : ∀ s k l x y, k ≠ l → set (set s k x) l y = set (set s l y) k x)

include hcomm

lemma foldl_setLast_set {k : κ} {gs : List (κ × List α)} (hk : k ∉ gs.map Prod.fst) (s : σ) (x : α) :
    gs.foldl (setLast set) (set s k x) = set (gs.foldl (setLast set) s) k x := by
  induction gs generalizing s with
  | nil => rfl
  | cons g gs ih =>
    rw [List.map_cons, List.mem_cons, not_or] at hk
    rw [List.foldl_cons, List.foldl_cons]
    cases hl : g.2.getLast? with
    | none => simpa only [setLast, hl] using ih hk.2 s
    | some y => simpa only [setLast, hl, hcomm s k g.1 x y hk.1] using ih hk.2 (set s g.1 y)

variable [DecidableEq κ] (hset : ∀ s k x y, set (set s k x) k y = set s k y)

include hset

lemma foldl_setLast_addToGroup {k : κ} {x : α} {gs : List (κ × List α)}
    (hn : (gs.map Prod.fst).Nodup) (s : σ) :
    (addToGroup k x gs).foldl (setLast set) s = set (gs.foldl (setLast set) s) k x := by
  induction gs generalizing s with
  | nil => rfl
  | cons g gs ih =>
    obtain ⟨l, ys⟩ := g
    rw [List.map_cons, List.nodup_cons] at hn
    rw [addToGroup]
    split
    · next hl =>
      subst hl
      have hlast : set (setLast set s (l, ys)) l x = set s l x := by
        cases hy : ys.getLast? with
        | none => simp only [setLast, hy]
        | some y => simp only [setLast, hy, hset]
      rw [List.foldl_cons, List.foldl_cons, ← foldl_setLast_set hcomm hn.1, hlast, setLast,
        List.getLast?_concat]
    · exact ih hn.2 _

lemma foldl_setLast_groupBy (key : α → Option κ) (xs : List α) (s : σ) :
    (groupBy key xs).foldl (setLast set) s = xs.foldl (setKeyed set key) s := by
  induction xs using List.reverseRecOn with
  | nil => rfl
  | append_singleton xs x ih =>
    rw [List.foldl_append, ← ih, groupBy_append_singleton]
    cases hk : key x with
    | none => simp only [List.foldl_cons, List.foldl_nil, setKeyed, hk]
    | some k =>
      simp only [List.foldl_cons, List.foldl_nil, setKeyed, hk]
      exact foldl_setLast_addToGroup hcomm hset (nodup_keys_groupBy key xs) s

end

end BracketQuery
