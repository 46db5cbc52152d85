/-!
Sorting by a comparison that need not be an order. A short list is sorted all the same; for a longer
one there is a result only if the comparison puts its items in an order.
-/

namespace BracketQuery

def insertDescending {α : Type} (order : α → α → Ordering) (x : α) : List α → List α
  | [] => [x]
  | y :: ys => if order x y = .lt then y :: insertDescending order x ys else x :: y :: ys

def stableSort {α : Type} (order : α → α → Ordering) (xs : List α) : List α :=
  (xs.foldl (fun acc x => insertDescending order x acc) []).reverse

structure SortOrder.IsPreorderOn {α : Type} (order : α → α → Ordering) (s : α → Prop) : Prop where
  swap : ∀ a b, s a → s b → order b a = (order a b).swap
  trans : ∀ a b c, s a → s b → s c → order a b ≠ .gt → order b c ≠ .gt → order a c ≠ .gt

/-- Whether the items of a list go up, and two of them compare as the steps from one to the other. -/
def isGraded {α : Type} (order : α → α → Ordering) : List α → Bool
  | [] => true
  | x :: xs =>
    order x x == .eq && xs.all (fun z => order x z != .gt && order z x == (order x z).swap) &&
      xs.head?.all (fun y => xs.all fun z => order x z == (order x y).then (order y z)) &&
      isGraded order xs

section

variable {α : Type} {order : α → α → Ordering} {s t : α → Prop} {x : α} {xs ys : List α}

theorem perm_insertDescending (order : α → α → Ordering) (x : α) (xs : List α) :
    (insertDescending order x xs).Perm (x :: xs) := by
  induction xs with
  | nil => exact .refl _
  | cons y ys ih =>
    rw [insertDescending]
    split
    · exact (ih.cons y).trans (.swap x y ys)
    · exact .refl _

theorem perm_stableSort (order : α → α → Ordering) (xs : List α) : (stableSort order xs).Perm xs := by
  have h (acc : List α) :
      (xs.foldl (fun acc x => insertDescending order x acc) acc).Perm (xs ++ acc) := by
    induction xs generalizing acc with
    | nil => exact .refl _
    | cons x xs ih =>
      have hx := (perm_insertDescending order x acc).append_left xs
      exact (ih _).trans (hx.trans List.perm_middle)
  exact (List.reverse_perm _).trans (by simpa using h [])

theorem mem_insertDescending {y : α} : y ∈ insertDescending order x ys ↔ y = x ∨ y ∈ ys :=
  (perm_insertDescending order x ys).mem_iff.trans List.mem_cons

namespace SortOrder.IsPreorderOn

theorem mono (h : IsPreorderOn order s) (hst : ∀ a, t a → s a) : IsPreorderOn order t :=
  ⟨fun a b ha hb => h.swap a b (hst a ha) (hst b hb),
    fun a b c ha hb hc => h.trans a b c (hst a ha) (hst b hb) (hst c hc)⟩

theorem order_self {a : α} (h : IsPreorderOn order s) (ha : s a) : order a a = .eq := by
  have hswap := h.swap a a ha ha
  cases ho : order a a <;> simp_all

theorem antisymm {a b : α} (h : IsPreorderOn order s) (ha : s a) (hb : s b)
    (hab : order a b ≠ .gt) (hba : order b a ≠ .gt) : order a b = .eq := by
  rw [h.swap a b ha hb, ne_eq, Ordering.swap_eq_gt] at hba
  cases ho : order a b <;> simp_all

theorem le_of_not_lt {a b : α} (h : IsPreorderOn order s) (ha : s a) (hb : s b)
    (hab : order a b ≠ .lt) : order b a ≠ .gt := by
  rwa [h.swap a b ha hb, ne_eq, Ordering.swap_eq_gt]

theorem chain {a b c : α} (h : IsPreorderOn order s) (ha : s a) (hb : s b) (hc : s c)
    (hab : order a b ≠ .gt) (hbc : order b c ≠ .gt) :
    order a c = (order a b).then (order b c) := by
  have hac := h.trans a b c ha hb hc hab hbc
  cases ho : order a c with
  | gt => exact absurd ho hac
  | eq =>
    have hca := h.le_of_not_lt ha hc (by simp [ho])
    rw [h.antisymm ha hb hab (h.trans b c a hb hc ha hbc hca),
      h.antisymm hb hc hbc (h.trans c a b hc ha hb hca hab)]
    rfl
  | lt =>
    have hsteps : ¬ (order a b = .eq ∧ order b c = .eq) := by
      rintro ⟨hab', hbc'⟩
      have hba := h.le_of_not_lt ha hb (by simp [hab'])
      have hcb := h.le_of_not_lt hb hc (by simp [hbc'])
      rw [h.antisymm ha hc hac (h.trans c b a hc hb ha hcb hba)] at ho
      cases ho
    cases hab' : order a b <;> cases hbc' : order b c <;> simp_all

theorem cons (h : IsPreorderOn order (· ∈ xs)) (hx : order x x = .eq)
    (hxs : ∀ z ∈ xs, order x z ≠ .gt ∧ order z x = (order x z).swap)
    (hlow : ∀ z ∈ xs, order x z = .eq →
      ∀ w ∈ xs, order z w ≠ .gt ∧ (order w z ≠ .gt → order x w = .eq)) :
    IsPreorderOn order (· ∈ x :: xs) := by
  have hself {z : α} (hz : z ∈ xs) (hle : order z x ≠ .gt) : order x z = .eq := by
    rw [(hxs z hz).2, ne_eq, Ordering.swap_eq_gt] at hle
    cases ho : order x z with
    | eq => rfl
    | lt => exact absurd ho hle
    | gt => exact absurd ho (hxs z hz).1
  refine ⟨fun a b ha hb => ?_, fun a b c ha hb hc hab hbc => ?_⟩
  · rcases List.mem_cons.mp ha with rfl | hma <;> rcases List.mem_cons.mp hb with rfl | hmb
    · rw [hx]
      rfl
    · exact (hxs b hmb).2
    · rw [(hxs a hma).2, Ordering.swap_swap]
    · exact h.swap a b hma hmb
  · rcases List.mem_cons.mp ha with rfl | hma
    · rcases List.mem_cons.mp hc with rfl | hmc
      · simp [hx]
      · exact (hxs c hmc).1
    · rcases List.mem_cons.mp hb with rfl | hmb <;> rcases List.mem_cons.mp hc with rfl | hmc
      · exact hab
      · exact (hlow a hma (hself hma hab) c hmc).1
      · rw [(hxs a hma).2, (hlow b hmb (hself hmb hbc) a hma).2 hab]
        decide
      · exact h.trans a b c hma hmb hmc hab hbc

end SortOrder.IsPreorderOn

theorem pairwise_insertDescending (h : SortOrder.IsPreorderOn order s) (hx : s x)
    (hs : ∀ y ∈ ys, s y) (hp : ys.Pairwise fun a b => order b a ≠ .gt) :
    (insertDescending order x ys).Pairwise fun a b => order b a ≠ .gt := by
  induction ys with
  | nil => exact List.pairwise_singleton _ x
  | cons y ys ih =>
    obtain ⟨hy, hys⟩ := List.forall_mem_cons.mp hs
    obtain ⟨hhead, htail⟩ := List.pairwise_cons.mp hp
    rw [insertDescending]
    split
    · next hlt =>
      refine List.pairwise_cons.mpr ⟨fun z hz => ?_, ih hys htail⟩
      rcases mem_insertDescending.mp hz with rfl | hz
      · rw [hlt]
        decide
      · exact hhead z hz
    · next hlt =>
      have hyx := h.le_of_not_lt hx hy hlt
      refine List.pairwise_cons.mpr ⟨List.forall_mem_cons.mpr ⟨hyx, fun z hz => ?_⟩, hp⟩
      exact h.trans z y x (hys z hz) hy hx (hhead z hz) hyx

theorem pairwise_stableSort (h : SortOrder.IsPreorderOn order (· ∈ xs)) :
    (stableSort order xs).Pairwise fun a b => order a b ≠ .gt := by
  have hfold (zs acc : List α) (hz : ∀ z ∈ zs, z ∈ xs) (ha : ∀ a ∈ acc, a ∈ xs)
      (hp : acc.Pairwise fun a b => order b a ≠ .gt) :
      (zs.foldl (fun acc z => insertDescending order z acc) acc).Pairwise
        fun a b => order b a ≠ .gt := by
    induction zs generalizing acc with
    | nil => exact hp
    | cons z zs ih =>
      obtain ⟨hzx, hzs⟩ := List.forall_mem_cons.mp hz
      refine ih _ hzs (fun a hm => ?_) (pairwise_insertDescending h hzx ha hp)
      rcases mem_insertDescending.mp hm with rfl | hm
      · exact hzx
      · exact ha a hm
  exact List.pairwise_reverse.mpr (hfold xs [] (fun _ hz => hz) nofun .nil)

theorem isGraded_cons : isGraded order (x :: xs) = true ↔
    order x x = .eq ∧ (∀ z ∈ xs, order x z ≠ .gt ∧ order z x = (order x z).swap) ∧
      (∀ y ∈ xs.head?, ∀ z ∈ xs, order x z = (order x y).then (order y z)) ∧
      isGraded order xs = true := by
  simp [isGraded, Option.all_eq_true, and_assoc]

theorem isGraded_of_isPreorderOn (h : SortOrder.IsPreorderOn order s) (hs : ∀ x ∈ xs, s x)
    (hp : xs.Pairwise fun a b => order a b ≠ .gt) : isGraded order xs = true := by
  induction xs with
  | nil => rfl
  | cons x xs ih =>
    obtain ⟨hx, hxs⟩ := List.forall_mem_cons.mp hs
    obtain ⟨hhead, htail⟩ := List.pairwise_cons.mp hp
    refine isGraded_cons.mpr ⟨h.order_self hx, fun z hz => ⟨hhead z hz, h.swap x z hx (hxs z hz)⟩,
      fun y hy z hz => ?_, ih hxs htail⟩
    have hym := List.mem_of_mem_head? hy
    have hyz : order y z ≠ .gt := by
      obtain ⟨ys, rfl⟩ : ∃ ys, xs = y :: ys := List.head?_eq_some_iff.mp hy
      rcases List.mem_cons.mp hz with rfl | hz
      · simp [h.order_self (hxs z hym)]
      · exact (List.pairwise_cons.mp htail).1 z hz
    exact h.chain hx (hxs y hym) (hxs z hz) (hhead y hym) hyz

theorem isPreorderOn_of_isGraded (h : isGraded order xs = true) :
    SortOrder.IsPreorderOn order (· ∈ xs) ∧ xs.Pairwise fun a b => order a b ≠ .gt := by
  induction xs with
  | nil => exact ⟨⟨nofun, nofun⟩, .nil⟩
  | cons x xs ih =>
    obtain ⟨hx, hxs, hsteps, h⟩ := isGraded_cons.mp h
    obtain ⟨h, hp⟩ := ih h
    refine ⟨h.cons hx hxs fun z hz hxz w hw => ?_,
      List.pairwise_cons.mpr ⟨fun z hz => (hxs z hz).1, hp⟩⟩
    -- what is alike to the new item is alike to the first of the others, and this is below them
    obtain ⟨y, ys, rfl⟩ := List.exists_cons_of_ne_nil (List.ne_nil_of_mem hz)
    have hy : y ∈ y :: ys := List.mem_cons_self
    have hyw : order y w ≠ .gt := by
      rcases List.mem_cons.mp hw with rfl | hw
      · simp [h.order_self hy]
      · exact (List.pairwise_cons.mp hp).1 w hw
    obtain ⟨hxy, hyz⟩ := Ordering.then_eq_eq.mp ((hsteps y rfl z hz).symm.trans hxz)
    have hzy := h.le_of_not_lt hy hz (by simp [hyz])
    refine ⟨h.trans z y w hz hy hw hzy hyw, fun hwz => ?_⟩
    rw [hsteps y rfl w hw, hxy, h.antisymm hy hw hyw (h.trans w z y hw hz hy hwz hzy)]
    rfl

theorem isGraded_stableSort :
    isGraded order (stableSort order xs) = true ↔ SortOrder.IsPreorderOn order (· ∈ xs) := by
  have hperm := perm_stableSort order xs
  constructor
  · intro h
    exact (isPreorderOn_of_isGraded h).1.mono fun a ha => hperm.mem_iff.mpr ha
  · intro h
    exact isGraded_of_isPreorderOn h (fun a ha => hperm.mem_iff.mp ha) (pairwise_stableSort h)

end

/-- Decided on the sorted list, with one look at every two of its items. -/
instance {α : Type} (order : α → α → Ordering) (xs : List α) :
    Decidable (SortOrder.IsPreorderOn order (· ∈ xs)) :=
  decidable_of_iff _ isGraded_stableSort

/-- So many items are sorted by insertion, whatever they are compared by. -/
def shortLength : Nat := 20

/-- Sorts a list. On more items than a short list has, a comparison that is no order on them may end
in a panic or leave them in any order; there is no result then. -/
def sort? {α : Type} (order : α → α → Ordering) (xs : List α) : Option (List α) :=
  if xs.length ≤ shortLength ∨ SortOrder.IsPreorderOn order (· ∈ xs) then some (stableSort order xs)
  else none

end BracketQuery
