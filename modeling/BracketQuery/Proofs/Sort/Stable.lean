import BracketQuery.Proofs.Sort.Preorder

/-! Sorting by keys of which each finds either timestamps or other texts in the entities. -/

namespace BracketQuery

section

variable {α : Type} {order : α → α → Ordering} {s : α → Prop} {x : α} {xs ys : List α}

lemma insertDescending_of_forall (h : ∀ y ∈ ys, order x y ≠ .lt) :
    insertDescending order x ys = x :: ys := by
  cases ys with
  | nil => rfl
  | cons y ys => rw [insertDescending, if_neg (h y List.mem_cons_self)]

lemma filter_insertDescending {p : α → Bool}
    (h : p x = true → ∀ y ∈ ys, p y = true → order x y ≠ .lt) :
    (insertDescending order x ys).filter p = (x :: ys).filter p := by
  induction ys with
  | nil => rfl
  | cons y ys ih =>
    rw [insertDescending]
    split
    · next hlt =>
      have hi := ih fun hx z hz => h hx z (List.mem_cons_of_mem y hz)
      cases hx : p x with
      | false => simp only [List.filter_cons, hi, hx, Bool.false_eq_true, if_false]
      | true =>
        have hy : p y = false := by
          rw [Bool.eq_false_iff]
          exact fun hy => h hx y List.mem_cons_self hy hlt
        simp only [List.filter_cons, hi, hx, hy, Bool.false_eq_true, if_false, if_true]
    · rfl

lemma filter_stableSort {p : α → Bool}
    (h : ∀ a b, p a = true → p b = true → order a b ≠ .lt) :
    (stableSort order xs).filter p = xs.filter p := by
  have hfold (acc : List α) : (xs.foldl (fun acc z => insertDescending order z acc) acc).filter p =
      (xs.filter p).reverse ++ acc.filter p := by
    induction xs generalizing acc with
    | nil => rfl
    | cons z zs ih =>
      rw [List.foldl_cons, ih, filter_insertDescending fun hz y _ hy => h z y hz hy,
        List.filter_cons, List.filter_cons]
      cases p z <;> simp
  rw [stableSort, List.filter_reverse, hfold, List.filter_nil, List.append_nil, List.reverse_reverse]

lemma stableSort_of_pairwise (h : xs.Pairwise fun a b => order b a ≠ .lt) :
    stableSort order xs = xs := by
  have hfold (acc : List α) (hp : (acc.reverse ++ xs).Pairwise fun a b => order b a ≠ .lt) :
      xs.foldl (fun acc z => insertDescending order z acc) acc = xs.reverse ++ acc := by
    clear h
    induction xs generalizing acc with
    | nil => rfl
    | cons z zs ih =>
      have hz : ∀ y ∈ acc, order z y ≠ .lt := fun y hy =>
        (List.pairwise_append.mp hp).2.2 y (List.mem_reverse.mpr hy) z List.mem_cons_self
      rw [List.foldl_cons, insertDescending_of_forall hz,
        ih (z :: acc) (by simpa using hp), List.reverse_cons, List.append_assoc,
        List.singleton_append]
  rw [stableSort, hfold [] h, List.append_nil, List.reverse_reverse]

lemma insertDescending_congr {order' : α → α → Ordering} (h : ∀ y ∈ ys, order x y = order' x y) :
    insertDescending order x ys = insertDescending order' x ys := by
  induction ys with
  | nil => rfl
  | cons y ys ih =>
    rw [insertDescending, insertDescending, h y List.mem_cons_self,
      ih fun z hz => h z (List.mem_cons_of_mem y hz)]

lemma stableSort_congr {order' : α → α → Ordering}
    (h : ∀ a ∈ xs, ∀ b ∈ xs, order a b = order' a b) : stableSort order xs = stableSort order' xs := by
  have hfold (zs acc : List α) (hz : ∀ z ∈ zs, z ∈ xs) (ha : ∀ a ∈ acc, a ∈ xs) :
      zs.foldl (fun acc z => insertDescending order z acc) acc =
        zs.foldl (fun acc z => insertDescending order' z acc) acc := by
    induction zs generalizing acc with
    | nil => rfl
    | cons z zs ih =>
      obtain ⟨hzx, hzs⟩ := List.forall_mem_cons.mp hz
      rw [List.foldl_cons, List.foldl_cons,
        insertDescending_congr fun y hy => h z hzx y (ha y hy)]
      refine ih _ hzs fun a hm => ?_
      rcases mem_insertDescending.mp hm with rfl | hm
      · exact hzx
      · exact ha a hm
  rw [stableSort, stableSort, hfold xs [] (fun _ hz => hz) nofun]

lemma SortOrder.IsPreorderOn.congr {order' : α → α → Ordering} (h : IsPreorderOn order s)
    (heq : ∀ a b, s a → s b → order a b = order' a b) : IsPreorderOn order' s := by
  refine ⟨fun a b ha hb => ?_, fun a b c ha hb hc => ?_⟩
  · rw [← heq a b ha hb, ← heq b a hb ha]
    exact h.swap a b ha hb
  · rw [← heq a b ha hb, ← heq b c hb hc, ← heq a c ha hc]
    exact h.trans a b c ha hb hc

lemma sort?_eq_some_iff : sort? order xs = some ys ↔
    (xs.length ≤ shortLength ∨ SortOrder.IsPreorderOn order (· ∈ xs)) ∧ stableSort order xs = ys := by
  rw [sort?, Option.ite_none_right_eq_some, Option.some.injEq]

lemma sort?_of_isPreorderOn (h : SortOrder.IsPreorderOn order (· ∈ xs)) :
    sort? order xs = some (stableSort order xs) :=
  if_pos (.inr h)

lemma sort?_congr {order' : α → α → Ordering}
    (h : ∀ a ∈ xs, ∀ b ∈ xs, order a b = order' a b) : sort? order xs = sort? order' xs := by
  have hpreorder : SortOrder.IsPreorderOn order (· ∈ xs) ↔ SortOrder.IsPreorderOn order' (· ∈ xs) :=
    ⟨fun ho => ho.congr fun a b ha hb => h a ha b hb,
      fun ho => ho.congr fun a b ha hb => (h a ha b hb).symm⟩
  simp only [sort?, hpreorder, stableSort_congr h]

end

namespace SortOrder

/-- The kinds of values that a key may find, from the lowest one; null is not found. -/
def kind : Option Json.Value → Nat
  | none => 0
  | some .null => 1
  | some (.bool _) => 2
  | some (.number _) => 3
  | some (.string _) => 4
  | some (.array _) => 5
  | some (.object _) => 6

/-- The strict order of what a key finds. Arrays are not told apart, and neither are objects. -/
inductive Below : Option Json.Value → Option Json.Value → Prop
  | kind {x y : Option Json.Value} (h : kind x < kind y) : Below x y
  | bool : Below (some (.bool false)) (some (.bool true))
  | number {m n : Json.Number} (h : m.toBinary64.rank < n.toBinary64.rank) :
    Below (some (.number m)) (some (.number n))
  | instant {s t : String} {a b : Timestamp} (hs : Timestamp.read? s = some a)
    (ht : Timestamp.read? t = some b)
    (h : a.seconds < b.seconds ∨ a.seconds = b.seconds ∧ a.nanos < b.nanos) :
    Below (some (.string s)) (some (.string t))
  | text {s t : String} (hplain : isInstant s = false ∨ isInstant t = false) (h : s < t) :
    Below (some (.string s)) (some (.string t))

lemma texts_eq_lt_iff {s t : String} :
    texts s t = .lt ↔ Below (some (.string s)) (some (.string t)) := by
  constructor
  · intro h
    unfold texts at h
    split at h
    · next a b hs ht =>
      exact .instant hs ht (Timestamp.order_eq_lt.mp h)
    · next hplain =>
      refine .text ?_ (Text.order_eq_lt.mp h)
      unfold isInstant
      cases hs : Timestamp.read? s with
      | none => exact .inl rfl
      | some a =>
        cases ht : Timestamp.read? t with
        | none => exact .inr rfl
        | some b => exact absurd ht (hplain a b hs)
  · rintro (h | _ | _ | ⟨hs, ht, h⟩ | ⟨hplain, h⟩)
    · exact absurd h (Nat.lt_irrefl _)
    · simpa only [texts, hs, ht, Timestamp.order_eq_lt] using h
    · rw [texts_eq_order hplain, Text.order_eq_lt]
      exact h

lemma properties_swap (x y : Option Json.Value) : properties y x = (properties x y).swap := by
  rw [properties_eq_order, properties_eq_order, Mark.order_swap]

lemma properties_of_kind_lt {x y : Option Json.Value} (h : kind x < kind y) :
    properties x y = .lt := by
  rcases x with _ | (_ | b | m | s | _ | _) <;> rcases y with _ | (_ | c | n | t | _ | _)
  all_goals first | rfl | simp [kind] at h

lemma below_of_kind_eq {x y : Option Json.Value} (hk : kind x = kind y)
    (h : properties x y = .lt) : Below x y := by
  rcases x with _ | (_ | b | m | s | _ | _) <;> rcases y with _ | (_ | c | n | t | _ | _) <;>
    cases hk
  case some.bool.some.bool.refl =>
    cases b <;> cases c
    case false.true => exact .bool
    all_goals cases h
  case some.number.some.number.refl => exact .number (Int.compare_eq_lt.mp h)
  case some.string.some.string.refl => exact texts_eq_lt_iff.mp h
  all_goals cases h

lemma properties_eq_lt {x y : Option Json.Value} : properties x y = .lt ↔ Below x y := by
  constructor
  · intro h
    rcases Nat.lt_trichotomy (kind x) (kind y) with hk | hk | hk
    · exact .kind hk
    · exact below_of_kind_eq hk h
    · rw [properties_swap, properties_of_kind_lt hk] at h
      cases h
  · intro h
    cases h with
    | kind h => exact properties_of_kind_lt h
    | bool => rfl
    | number h => exact Int.compare_eq_lt.mpr h
    | instant hs ht h => exact texts_eq_lt_iff.mpr (.instant hs ht h)
    | text hplain h => exact texts_eq_lt_iff.mpr (.text hplain h)

def found (k : SortKey) (v : Json.Value) : Option Json.Value := v.resolve (segments k)

def KeyPrecedes (k : SortKey) (v w : Json.Value) : Prop :=
  if k.isDescending then Below (found k w) (found k v) else Below (found k v) (found k w)

lemma byKey_eq_lt {k : SortKey} {v w : Json.Value} : byKey k v w = .lt ↔ KeyPrecedes k v w := by
  rw [byKey, KeyPrecedes]
  split
  · rw [← properties_swap, properties_eq_lt]
    exact Iff.rfl
  · exact properties_eq_lt

def Tied (ks : List SortKey) (v w : Json.Value) : Prop :=
  ∀ k ∈ ks, ¬ KeyPrecedes k v w ∧ ¬ KeyPrecedes k w v

inductive Precedes : List SortKey → Json.Value → Json.Value → Prop
  | first {k : SortKey} {ks : List SortKey} {v w : Json.Value} (h : KeyPrecedes k v w) :
    Precedes (k :: ks) v w
  | later {k : SortKey} {ks : List SortKey} {v w : Json.Value} (hv : ¬ KeyPrecedes k v w)
    (hw : ¬ KeyPrecedes k w v) (h : Precedes ks v w) : Precedes (k :: ks) v w

lemma byKey_eq_eq {k : SortKey} {v w : Json.Value} :
    byKey k v w = .eq ↔ ¬ KeyPrecedes k v w ∧ ¬ KeyPrecedes k w v := by
  rw [← byKey_eq_lt, ← byKey_eq_lt, byKey_swap k v w, Ordering.swap_eq_lt]
  cases byKey k v w <;> decide

lemma byKeys_eq_eq {ks : List SortKey} {v w : Json.Value} :
    byKeys ks v w = .eq ↔ Tied ks v w := by
  induction ks with
  | nil => exact ⟨fun _ => nofun, fun _ => rfl⟩
  | cons k ks ih =>
    rw [byKeys_cons_eq_eq, byKey_eq_eq, ih]
    simp only [Tied, List.forall_mem_cons]

lemma byKeys_eq_lt {ks : List SortKey} {v w : Json.Value} :
    byKeys ks v w = .lt ↔ Precedes ks v w := by
  induction ks with
  | nil => exact ⟨nofun, nofun⟩
  | cons k ks ih =>
    rw [byKeys, Ordering.then_eq_lt, byKey_eq_lt, byKey_eq_eq, ih]
    constructor
    · rintro (h | ⟨⟨hv, hw⟩, h⟩)
      · exact .first h
      · exact .later hv hw h
    · rintro (h | ⟨hv, hw, h⟩)
      · exact .inl h
      · exact .inr ⟨⟨hv, hw⟩, h⟩

instance (ks : List SortKey) (v w : Json.Value) : Decidable (Tied ks v w) :=
  decidable_of_iff (byKeys ks v w = .eq) byKeys_eq_eq

lemma byKeys_eq_trans {ks : List SortKey} {u v w : Json.Value} (huv : byKeys ks u v = .eq)
    (hvw : byKeys ks v w = .eq) : byKeys ks u w = .eq := by
  induction ks with
  | nil => rfl
  | cons k ks ih =>
    obtain ⟨hu, huv⟩ := byKeys_cons_eq_eq.mp huv
    obtain ⟨hv, hvw⟩ := byKeys_cons_eq_eq.mp hvw
    exact byKeys_cons_eq_eq.mpr ⟨byKey_eq_trans hu hv, ih huv hvw⟩

/-- The texts that a key finds in some entities are all timestamps, or none of them is one. -/
def IsUniform (k : SortKey) (es : List Json.Value) : Prop :=
  (∀ e ∈ es, ∀ s ∈ text? k e, isInstant s = true) ∨
    ∀ e ∈ es, ∀ s ∈ text? k e, isInstant s = false

instance (k : SortKey) (es : List Json.Value) : Decidable (IsUniform k es) :=
  inferInstanceAs (Decidable (_ ∨ _))

variable {keys : List SortKey} {es : List Json.Value}

lemma chronological_of_isUniform (h : ∀ k ∈ keys, IsUniform k es) :
    Chronological keys (· ∈ es) := by
  rintro before k after rfl u v w hu hv - - - hs
  obtain ⟨s, hsu, hinstant⟩ := (Option.any_eq_true _ _).mp hs.left
  obtain ⟨t, htv, hplain⟩ := (Option.any_eq_true _ _).mp hs.middle
  rcases h k (by simp) with hk | hk
  · simp [hk v hv t htv] at hplain
  · simp [hk u hu s hsu] at hinstant

lemma isPreorderOn_of_isUniform (h : ∀ k ∈ keys, IsUniform k es) :
    IsPreorderOn (byKeys keys) (· ∈ es) :=
  ⟨fun v w _ _ => byKeys_swap keys v w, fun _ _ _ hu hv hw =>
    (chronological_of_isUniform h).trans hu hv hw⟩

lemma sortEntities_of_isUniform (h : ∀ k ∈ keys, IsUniform k es) :
    sortEntities keys es = some (stableSort (byKeys keys) es) :=
  sort?_of_isPreorderOn (isPreorderOn_of_isUniform h)

/--
Sorting by keys of which each finds timestamps alone, or none, only moves entities: to an order in
which none comes behind one that it precedes, with those that are tied in the order they had. Sorted
entities stay where they are.
-/
theorem sortEntities_stable (h : ∀ k ∈ keys, IsUniform k es) :
    ∃ sorted, sortEntities keys es = some sorted ∧ sorted.Perm es ∧
      sorted.Pairwise (fun v w => ¬ Precedes keys w v) ∧
      (∀ v, sorted.filter (fun w => Tied keys v w) = es.filter fun w => Tied keys v w) ∧
      sortEntities keys sorted = some sorted := by
  have hperm := perm_stableSort (byKeys keys) es
  have hsorted : (stableSort (byKeys keys) es).Pairwise fun v w => byKeys keys w v ≠ .lt := by
    refine (pairwise_stableSort (isPreorderOn_of_isUniform h)).imp fun {v w} hle => ?_
    rw [byKeys_swap keys v w, ne_eq, Ordering.swap_eq_lt]
    exact hle
  refine ⟨_, sortEntities_of_isUniform h, hperm, hsorted.imp fun hle => mt byKeys_eq_lt.mpr hle,
    fun v => ?_, ?_⟩
  · refine filter_stableSort fun a b ha hb => ?_
    rw [decide_eq_true_eq, ← byKeys_eq_eq] at ha hb
    have hav : byKeys keys a v = .eq := by
      rw [byKeys_swap keys v a, ha]
      rfl
    rw [byKeys_eq_trans hav hb]
    decide
  · have hagain := (isPreorderOn_of_isUniform h).mono fun _ hv => hperm.mem_iff.mp hv
    rw [sortEntities, sort?_of_isPreorderOn hagain, stableSort_of_pairwise hsorted]

def latestFirst : List SortKey :=
  [⟨"made.at", "-made.at", .descending⟩, ⟨"rank", "rank", .ascending⟩]

/-- Two timestamps of one instant, a date and its midnight, a number, and two entities without. -/
def crates : List Json.Value :=
  [ .object [("name", .string "a"), ("rank", .number (.integer 2)),
      ("made", .object [("at", .string "2024-01-01T12:00:00+05:00")])],
    .object [("name", .string "b"), ("rank", .number (.integer 2)),
      ("made", .object [("at", .string "2024-01-01T07:00:00Z")])],
    .object [("name", .string "c"), ("rank", .string "high")],
    .object [("name", .string "d"), ("rank", .array []),
      ("made", .object [("at", .string "2024-01-02")])],
    .object [("name", .string "e"), ("rank", .bool true),
      ("made", .object [("at", .string "2024-01-02T00:00:00Z")])],
    .object [("name", .string "f"), ("rank", .null), ("made", .object [("at", .null)])],
    .object [("name", .string "g"), ("rank", .object []),
      ("made", .object [("at", .number (.integer 5))])] ]

theorem sortEntities_stable_crates :
    (∀ k ∈ latestFirst, IsUniform k crates) ∧
    ∃ sorted, sortEntities latestFirst crates = some sorted ∧ sorted.Perm crates ∧
      sorted.Pairwise (fun v w => ¬ Precedes latestFirst w v) ∧
      (∀ v, sorted.filter (fun w => Tied latestFirst v w) =
        crates.filter fun w => Tied latestFirst v w) ∧
      sortEntities latestFirst sorted = some sorted ∧
      sorted.map (text? ⟨"name", "name", .ascending⟩) =
        [some "e", some "d", some "a", some "b", some "g", some "f", some "c"] := by
  have hu : ∀ k ∈ latestFirst, IsUniform k crates := by decide +kernel
  obtain ⟨sorted, hs, hperm, hsorted, htied, hagain⟩ := sortEntities_stable hu
  obtain rfl : stableSort (byKeys latestFirst) crates = sorted := (sort?_eq_some_iff.mp hs).2
  exact ⟨hu, _, hs, hperm, hsorted, htied, hagain, by decide +kernel⟩

end SortOrder

end BracketQuery
