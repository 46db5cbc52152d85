import BracketQuery.Proofs.Expression.Alike
import Mathlib.Data.List.Sort

/-! Equality of nodes, in which the order of values does not count, and the children that a group
keeps. They are kept in a set that is looked up by hash, so nodes that are equal need equal hashes. -/

namespace BracketQuery

namespace ValueSet

def inOrder (s : ValueSet) : ValueSet :=
  ⟨s.toList.mergeSort fun a b => (Text.order a b).isLE,
    (List.mergeSort_perm _ _).nodup_iff.mpr s.nodup⟩

lemma toList_injective {s t : ValueSet} (h : s.toList = t.toList) : s = t := by
  cases s
  cases t
  obtain rfl := h
  rfl

lemma perm_inOrder (s : ValueSet) : s.inOrder.toList.Perm s.toList := List.mergeSort_perm _ _

lemma pairwise_inOrder (s : ValueSet) :
    s.inOrder.toList.Pairwise fun a b => (Text.order a b).isLE = true := by
  refine List.pairwise_mergeSort (fun a b c => Std.TransCmp.isLE_trans) (fun a b => ?_) _
  have hswap : Text.order b a = (Text.order a b).swap := Std.OrientedCmp.eq_swap
  rw [hswap]
  cases Text.order a b <;> rfl

lemma inOrder_eq_of_perm {s t : ValueSet} (h : s.toList.Perm t.toList) : s.inOrder = t.inOrder := by
  have hperm := (s.perm_inOrder.trans h).trans t.perm_inOrder.symm
  refine toList_injective (hperm.eq_of_pairwise ?_ s.pairwise_inOrder t.pairwise_inOrder)
  intro a b _ _ hab hba
  exact Text.eq_of_order_eq (Std.OrientedCmp.isLE_antisymm hab hba)

lemma alike_iff_perm {s t : ValueSet} : s.alike t = true ↔ s.toList.Perm t.toList :=
  ⟨perm_of_alike, fun h => by simp [alike, h.length_eq, h.mem_iff]⟩

lemma alike_iff {s t : ValueSet} : s.alike t = true ↔ s.inOrder = t.inOrder := by
  rw [alike_iff_perm]
  refine ⟨inOrder_eq_of_perm, fun h => ?_⟩
  exact s.perm_inOrder.symm.trans ((List.Perm.of_eq (congrArg toList h)).trans t.perm_inOrder)

lemma inOrder_inOrder (s : ValueSet) : s.inOrder.inOrder = s.inOrder :=
  inOrder_eq_of_perm s.perm_inOrder

end ValueSet

def Leaf.inOrder (l : Leaf) : Leaf := { l with values := l.values.inOrder }

lemma Leaf.alike_iff {a b : Leaf} : a.alike b = true ↔ a.inOrder = b.inOrder := by
  obtain ⟨_, _, _, _, s⟩ := a
  obtain ⟨_, _, _, _, t⟩ := b
  simp only [alike, inOrder, Bool.and_eq_true, beq_iff_eq, ValueSet.alike_iff, mk.injEq, and_assoc]

inductive HashWord
  | number (n : Nat)
  | text (s : String)

namespace HashWord

def ofOption : Option String → List HashWord
  | none => [number 0]
  | some s => [number 1, text s]

def ofTexts (ss : List String) : List HashWord := number ss.length :: ss.map text

end HashWord

/-- Equality does not look at the order of values, so what is hashed are the values in order. -/
def Leaf.hashWords (l : Leaf) : List HashWord :=
  .text l.name :: HashWord.ofOption l.groupName ++
    .text l.path :: .number (Operator.all.idxOf l.operator) ::
      HashWord.ofTexts l.values.inOrder.toList

def Heading.hashWords (h : Heading) : List HashWord :=
  .text h.name :: HashWord.ofOption h.groupName ++ [.number ([.and, .or].idxOf h.conjunction)]

namespace Node

mutual

def inOrder : Node → Node
  | leaf l => leaf l.inOrder
  | group h cs => group h (allInOrder cs)

def allInOrder : List Node → List Node
  | [] => []
  | c :: cs => inOrder c :: allInOrder cs

end

mutual

def hashWords : Node → List HashWord
  | leaf l => .number 0 :: l.hashWords
  | group h cs => .number 1 :: h.hashWords ++ .number cs.length :: hashWordsIn cs

def hashWordsIn : List Node → List HashWord
  | [] => []
  | c :: cs => hashWords c ++ hashWordsIn cs

end

mutual

lemma alike_iff : ∀ {m n : Node}, m.alike n = true ↔ m.inOrder = n.inOrder
  | leaf a, leaf b => by rw [alike, inOrder, inOrder, leaf.injEq, Leaf.alike_iff]
  | group g cs, group h ds => by
    rw [alike, inOrder, inOrder, group.injEq, Bool.and_eq_true, beq_iff_eq, allAlike_iff]
  | leaf a, group h ds => by simp [alike, inOrder]
  | group g cs, leaf b => by simp [alike, inOrder]

lemma allAlike_iff : ∀ {cs ds : List Node}, allAlike cs ds = true ↔ allInOrder cs = allInOrder ds
  | [], [] => by simp [allAlike]
  | c :: cs, d :: ds => by
    rw [allAlike, allInOrder, allInOrder, List.cons.injEq, Bool.and_eq_true, alike_iff,
      allAlike_iff]
  | [], d :: ds => by simp [allAlike, allInOrder]
  | c :: cs, [] => by simp [allAlike, allInOrder]

end

lemma equivalence_alike : Equivalence fun m n : Node => m.alike n = true := by
  simp only [alike_iff]
  exact eq_equivalence.comap inOrder

lemma length_allInOrder (cs : List Node) : (allInOrder cs).length = cs.length := by
  induction cs with
  | nil => rfl
  | cons c cs ih => rw [allInOrder, List.length_cons, List.length_cons, ih]

mutual

lemma hashWords_inOrder : ∀ n : Node, n.inOrder.hashWords = n.hashWords
  | leaf l => by
    rw [inOrder, hashWords, hashWords, Leaf.hashWords, Leaf.hashWords, Leaf.inOrder,
      ValueSet.inOrder_inOrder]
  | group h cs => by
    rw [inOrder, hashWords, hashWords, length_allInOrder, hashWordsIn_allInOrder cs]

lemma hashWordsIn_allInOrder : ∀ cs : List Node, hashWordsIn (allInOrder cs) = hashWordsIn cs
  | [] => rfl
  | c :: cs => by
    rw [allInOrder, hashWordsIn, hashWordsIn, hashWords_inOrder c, hashWordsIn_allInOrder cs]

end

lemma hashWords_eq_of_alike {m n : Node} (h : m.alike n = true) : m.hashWords = n.hashWords := by
  rw [← hashWords_inOrder m, alike_iff.mp h, hashWords_inOrder]

instance : BEq Node := ⟨alike⟩

instance : EquivBEq Node where
  rfl := equivalence_alike.refl _
  symm := equivalence_alike.symm
  trans := equivalence_alike.trans

end Node

lemma any_append_singleton {α : Type} [BEq α] [EquivBEq α] {xs : List α} {x : α}
    (hx : xs.any (· == x) = true) (y : α) : (xs ++ [x]).any (· == y) = xs.any (· == y) := by
  obtain ⟨z, hz, hzx⟩ := List.any_eq_true.mp hx
  have hsub (hxy : (x == y) = true) : xs.any (· == y) = true :=
    List.any_eq_true.mpr ⟨z, hz, BEq.trans hzx hxy⟩
  rw [List.any_append, List.any_cons, List.any_nil, Bool.or_false]
  cases hxy : x == y with
  | true => rw [hsub hxy, Bool.or_true]
  | false => rw [Bool.or_false]

/-- Items without equal ones in the order of their insertion, and a set of them to look up by hash. -/
structure HashedList (α : Type) [BEq α] [Hashable α] where
  seen : Std.HashSet α
  items : List α

namespace HashedList

variable {α : Type} [BEq α] [Hashable α] {s : HashedList α} {xs : List α}

def empty : HashedList α := ⟨∅, []⟩

def insert (s : HashedList α) (x : α) : HashedList α :=
  if s.seen.contains x then s else ⟨s.seen.insert x, s.items ++ [x]⟩

structure Collects (xs : List α) (s : HashedList α) : Prop where
  contains (y : α) : s.seen.contains y = xs.any (· == y)
  items : s.items = firsts (· == ·) xs

variable [EquivBEq α] [LawfulHashable α]

lemma Collects.insert (h : Collects xs s) (x : α) : Collects (xs ++ [x]) (s.insert x) := by
  rw [HashedList.insert, h.contains]
  cases hx : xs.any (· == x) with
  | true =>
    refine ⟨fun y => ?_, ?_⟩
    · rw [if_pos rfl, any_append_singleton hx, h.contains]
    · rw [if_pos rfl, firsts_append_singleton, if_pos hx, h.items]
  | false =>
    refine ⟨fun y => ?_, ?_⟩
    · rw [if_neg Bool.false_ne_true, Std.HashSet.contains_insert, h.contains, List.any_append,
        List.any_cons, List.any_nil, Bool.or_false, Bool.or_comm]
    · rw [if_neg Bool.false_ne_true, firsts_append_singleton, hx, if_neg Bool.false_ne_true, h.items]

lemma collects_foldl (xs : List α) : Collects xs (xs.foldl HashedList.insert empty) := by
  induction xs using List.reverseRecOn with
  | nil => exact ⟨fun _ => Std.HashSet.contains_empty, rfl⟩
  | append_singleton xs x ih =>
    rw [List.foldl_append]
    exact ih.insert x

end HashedList

def collectByHash {α : Type} [BEq α] (hash : α → UInt64) (xs : List α) : List α :=
  let _ : Hashable α := ⟨hash⟩
  (xs.foldl HashedList.insert HashedList.empty).items

lemma collectByHash_eq_firsts {α : Type} [BEq α] [EquivBEq α] {hash : α → UInt64}
    (h : ∀ x y : α, (x == y) = true → hash x = hash y) (xs : List α) :
    collectByHash hash xs = firsts (· == ·) xs :=
  let _ : Hashable α := ⟨hash⟩
  have _ : LawfulHashable α := ⟨h⟩
  (HashedList.collects_foldl xs).items

lemma Leaf.alike_iff_mem {a b : Leaf} : a.alike b = true ↔
    a.name = b.name ∧ a.groupName = b.groupName ∧ a.path = b.path ∧ a.operator = b.operator ∧
      ∀ v, v ∈ a.values.toList ↔ v ∈ b.values.toList := by
  have hvalues :
      a.values.alike b.values = true ↔ ∀ v, v ∈ a.values.toList ↔ v ∈ b.values.toList := by
    rw [ValueSet.alike_iff_perm, List.perm_ext_iff_of_nodup a.values.nodup b.values.nodup]
  simp only [alike, Bool.and_eq_true, beq_iff_eq, hvalues, and_assoc]

lemma Node.allAlike_iff_forall₂ {cs ds : List Node} :
    allAlike cs ds = true ↔ List.Forall₂ (fun c d => c.alike d = true) cs ds := by
  induction cs generalizing ds with
  | nil => cases ds <;> simp [allAlike]
  | cons c cs ih =>
    cases ds with
    | nil => simp [allAlike]
    | cons d ds => simp [allAlike, ih]

structure Node.IsEquality (r : Node → Node → Prop) : Prop where
  equivalence : Equivalence r
  leaf_iff (a b : Leaf) : r (.leaf a) (.leaf b) ↔ a.name = b.name ∧ a.groupName = b.groupName ∧
    a.path = b.path ∧ a.operator = b.operator ∧ ∀ v, v ∈ a.values.toList ↔ v ∈ b.values.toList
  group_iff (g h : Heading) (cs ds : List Node) :
    r (.group g cs) (.group h ds) ↔ g = h ∧ List.Forall₂ r cs ds
  leaf_group (a : Leaf) (h : Heading) (ds : List Node) : ¬ r (.leaf a) (.group h ds)

lemma Node.isEquality_alike : IsEquality fun m n => m.alike n = true where
  equivalence := equivalence_alike
  leaf_iff a b := Leaf.alike_iff_mem
  group_iff g h cs ds := by
    rw [alike, Bool.and_eq_true, beq_iff_eq, allAlike_iff_forall₂]
  leaf_group a h ds := Bool.false_ne_true

/-- Equality of nodes is an equivalence. Of equal children a group keeps the first one, in a set that
is looked up by a hash of any kind: no two that it keeps are equal, each child is equal to one of
them, and from its own children the same group is made. -/
theorem Group.make_distinct {name : String} (hn : Text.isBlankString name = false)
    (parent : Option String) (conjunction : Conjunction) (cs : List Node) :
    Node.IsEquality (fun m n => m.alike n = true) ∧
    ∃ g, Group.make name parent conjunction cs = .ok g ∧
      g.toHeading = ⟨name, parent, conjunction⟩ ∧ g.children = newItems Node.alike cs ∧
      (∀ hash : List HashWord → UInt64,
        collectByHash (fun c : Node => hash c.hashWords) cs = g.children) ∧
      (g.children.Pairwise fun m n => m.alike n = false) ∧
      (∀ c ∈ cs, ∃ k ∈ g.children, c.alike k = true) ∧
      Group.make g.name g.groupName g.conjunction g.children = .ok g := by
  have hmake (ds : List Node) : Group.make name parent conjunction ds =
      .ok ⟨⟨name, parent, conjunction⟩, firsts Node.alike ds⟩ := by
    simp [Group.make, hn]
  have hdistinct := pairwise_firsts Node.alike cs
  refine ⟨Node.isEquality_alike, _, hmake cs, rfl, firsts_eq_newItems _ _, fun hash => ?_, hdistinct,
    fun c hc => ?_, ?_⟩
  · exact collectByHash_eq_firsts (fun m n h => congrArg hash (Node.hashWords_eq_of_alike h)) cs
  · have halike := Node.equivalence_alike
    exact exists_mem_firsts (fun m n h hc => halike.trans hc (halike.symm h)) hc (halike.refl c)
  · rw [hmake, firsts_of_pairwise hdistinct]

def shuffledChoices : List Node :=
  let tag (values : List String) : Node := .leaf ⟨"tag", some "root", "tag", .isIn, .ofList values⟩
  [.choice "g" ["9", "1"] ["^a", "("], tag ["x", "y"], .choice "g" ["9", "2"] ["^a", "("],
    .choice "g" ["1", "9"] ["(", "^a"], tag ["y", "x", "y"]]

theorem Group.make_distinct_shuffledChoices :
    Text.isBlankString "root" = false ∧ ∃ g,
      Group.make "root" none .or shuffledChoices = .ok g ∧ g.children.length = 3 ∧
      (∀ hash : List HashWord → UInt64,
        collectByHash (fun c : Node => hash c.hashWords) shuffledChoices = g.children) ∧
      (g.children.Pairwise fun m n => m.alike n = false) ∧
      (∀ c ∈ shuffledChoices, ∃ k ∈ g.children, c.alike k = true) ∧
      Group.make g.name g.groupName g.conjunction g.children = .ok g := by
  have hn : Text.isBlankString "root" = false := by decide
  obtain ⟨-, g, hmake, -, hnew, h⟩ := Group.make_distinct hn none .or shuffledChoices
  have hlength : (newItems Node.alike shuffledChoices).length = 3 := by decide
  exact ⟨hn, g, hmake, hnew ▸ hlength, h⟩

end BracketQuery
