import BracketQuery.Proofs.Assembly.Build
import Mathlib.Data.List.Perm.Basic
import Mathlib.Data.List.Perm.Lattice

/-! What an assembled tree consists of: the leaves whose groups climb to the root, each in its group,
and the groups on their ways. -/

namespace BracketQuery

namespace Node

mutual

/-- A node and all below it, each with the name of the group that it lies directly in. -/
def placed (owner : String) : Node → List (String × Node)
  | leaf l => [(owner, leaf l)]
  | group h cs => (owner, group h cs) :: placedIn h.name cs

def placedIn (owner : String) : List Node → List (String × Node)
  | [] => []
  | c :: cs => placed owner c ++ placedIn owner cs

end

def inner : Node → List (String × Node)
  | leaf _ => []
  | group h cs => placedIn h.name cs

lemma placed_eq_cons (owner : String) (n : Node) : placed owner n = (owner, n) :: n.inner := by
  cases n <;> rfl

lemma placedIn_eq_flatMap (owner : String) (ns : List Node) :
    placedIn owner ns = ns.flatMap fun n => (owner, n) :: n.inner := by
  induction ns with
  | nil => rfl
  | cons n ns ih => rw [placedIn, placed_eq_cons, ih, List.flatMap_cons]

lemma perm_placedIn (owner : String) (ns : List Node) :
    (placedIn owner ns).Perm (ns.map (fun n => (owner, n)) ++ ns.flatMap inner) := by
  rw [placedIn_eq_flatMap]
  exact (List.map_append_flatMap_perm ns _ inner).symm

lemma mem_placedIn {owner o : String} {n : Node} {ns : List Node} :
    (o, n) ∈ placedIn owner ns ↔
      (o = owner ∧ n ∈ ns) ∨ ∃ h ds, group h ds ∈ ns ∧ (o, n) ∈ placedIn h.name ds := by
  rw [(perm_placedIn owner ns).mem_iff, List.mem_append, List.mem_map, List.mem_flatMap]
  constructor
  · rintro (⟨m, hm, he⟩ | ⟨m, hm, hb⟩)
    · cases he
      exact .inl ⟨rfl, hm⟩
    · cases m with
      | leaf l => cases hb
      | group h ds => exact .inr ⟨h, ds, hm, hb⟩
  · rintro (⟨rfl, hm⟩ | ⟨h, ds, hm, hb⟩)
    · exact .inl ⟨n, hm, rfl⟩
    · exact .inr ⟨group h ds, hm, hb⟩

end Node

def Group.placed (g : Group) : List (String × Node) := Node.placedIn g.name g.children

namespace Assembly

variable {a : Assembly}

lemma mem_leafNodes {n : Node} {name : String} :
    n ∈ a.leafNodes name ↔ ∃ l ∈ a.leaves, l.1.group = name ∧ n = leafNode l := by
  simp only [leafNodes, List.mem_map, List.mem_filter, beq_iff_eq]
  constructor
  · rintro ⟨l, ⟨hl, hg⟩, rfl⟩
    exact ⟨l, hl, hg, rfl⟩
  · rintro ⟨l, hl, hg, rfl⟩
    exact ⟨l, ⟨hl, hg⟩, rfl⟩

lemma mem_content {n : Node} {levels : Nat} {name : String} :
    n ∈ a.content levels name ↔ n ∈ a.leafNodes name ∨
      ∃ k child, levels = k + 1 ∧ child ∈ a.childrenOf name ∧ a.content k child ≠ [] ∧
        n = .group (a.heading child (some name)) (a.content k child) := by
  cases levels with
  | zero => simp [content]
  | succ k =>
    simp only [content, List.mem_append, List.mem_map, List.mem_filter, Bool.not_eq_true',
      List.isEmpty_eq_false_iff]
    constructor
    · rintro (h | ⟨child, ⟨hm, hne⟩, rfl⟩)
      · exact .inl h
      · exact .inr ⟨k, child, rfl, hm, hne, rfl⟩
    · rintro (h | ⟨j, child, hj, hm, hne, rfl⟩)
      · exact .inl h
      · cases hj
        exact .inr ⟨child, ⟨hm, hne⟩, rfl⟩

lemma group_mem_content {h : Heading} {ds : List Node} {levels : Nat} {name : String} :
    .group h ds ∈ a.content levels name ↔
      ∃ k, levels = k + 1 ∧ h.name ∈ a.childrenOf name ∧ a.content k h.name ≠ [] ∧
        h = a.heading h.name (some name) ∧ ds = a.content k h.name := by
  rw [mem_content]
  constructor
  · rintro (hl | ⟨k, child, hk, hm, hne, he⟩)
    · obtain ⟨l, -, -, he⟩ := mem_leafNodes.mp hl
      cases he
    · cases he
      exact ⟨k, hk, hm, hne, rfl, rfl⟩
  · rintro ⟨k, hk, hm, hne, hh, rfl⟩
    exact .inr ⟨k, h.name, hk, hm, hne, by rw [← hh]⟩

lemma leaf_mem_content {l : Leaf} {levels : Nat} {name : String} :
    .leaf l ∈ a.content levels name ↔ .leaf l ∈ a.leafNodes name := by
  rw [mem_content]
  constructor
  · rintro (h | ⟨_, _, -, -, -, he⟩)
    · exact h
    · cases he
  · exact .inl

lemma Sound.mem_placedIn (hs : a.Sound) {o : String} {n : Node} {levels : Nat} {name : String} :
    (o, n) ∈ Node.placedIn name (a.content levels name) ↔
      ∃ m k, m + k = levels ∧ climb a.parentOf? m o = some name ∧ n ∈ a.content k o := by
  induction levels generalizing name with
  | zero =>
    rw [Node.mem_placedIn]
    constructor
    · rintro (⟨rfl, hn⟩ | ⟨h, ds, hm, -⟩)
      · exact ⟨0, 0, rfl, rfl, hn⟩
      · obtain ⟨k, hk, -⟩ := group_mem_content.mp hm
        omega
    · rintro ⟨m, k, hmk, hc, hn⟩
      obtain ⟨rfl, rfl⟩ : m = 0 ∧ k = 0 := by omega
      exact .inl ⟨Option.some.inj hc, Option.some.inj hc ▸ hn⟩
  | succ levels ih =>
    rw [Node.mem_placedIn]
    constructor
    · rintro (⟨rfl, hn⟩ | ⟨h, ds, hm, hb⟩)
      · exact ⟨0, levels + 1, by omega, rfl, hn⟩
      · obtain ⟨k, hk, hch, -, -, rfl⟩ := group_mem_content.mp hm
        obtain rfl : levels = k := by omega
        obtain ⟨m, j, hmj, hc, hn⟩ := ih.mp hb
        refine ⟨m + 1, j, by omega, ?_, hn⟩
        exact (climb_succ_eq _ m o name).mpr ⟨h.name, hc, hs.parent_iff.mpr hch⟩
    · rintro ⟨m, k, hmk, hc, hn⟩
      cases m with
      | zero =>
        obtain rfl : k = levels + 1 := by omega
        exact .inl ⟨Option.some.inj hc, Option.some.inj hc ▸ hn⟩
      | succ m =>
        obtain ⟨child, hcm, hp⟩ := (climb_succ_eq _ m o name).mp hc
        have hb := ih.mpr ⟨m, k, by omega, hcm, hn⟩
        have hne : a.content levels child ≠ [] := by
          intro he
          rw [he] at hb
          cases hb
        refine .inr ⟨a.heading child (some name), a.content levels child, ?_, hb⟩
        exact group_mem_content.mpr ⟨levels, rfl, hs.parent_iff.mp hp, hne, rfl, rfl⟩

lemma Sound.content_ne_nil (hs : a.Sound) {levels : Nat} {name : String} :
    a.content levels name ≠ [] ↔
      ∃ l ∈ a.leaves, ∃ m ≤ levels, climb a.parentOf? m l.1.group = some name := by
  induction levels generalizing name with
  | zero =>
    constructor
    · intro hne
      obtain ⟨n, hn⟩ := List.exists_mem_of_ne_nil _ hne
      obtain ⟨l, hl, hg, -⟩ := mem_leafNodes.mp hn
      exact ⟨l, hl, 0, Nat.le_refl 0, congrArg some hg⟩
    · rintro ⟨l, hl, m, hm, hc⟩
      obtain rfl : m = 0 := by omega
      exact List.ne_nil_of_mem (mem_leafNodes.mpr ⟨l, hl, Option.some.inj hc, rfl⟩)
  | succ levels ih =>
    constructor
    · intro hne
      obtain ⟨n, hn⟩ := List.exists_mem_of_ne_nil _ hne
      rcases mem_content.mp hn with hl | ⟨k, child, hk, hch, hne, -⟩
      · obtain ⟨l, hl, hg, -⟩ := mem_leafNodes.mp hl
        exact ⟨l, hl, 0, by omega, congrArg some hg⟩
      · obtain rfl : levels = k := by omega
        obtain ⟨l, hl, m, hm, hc⟩ := ih.mp hne
        exact ⟨l, hl, m + 1, by omega,
          (climb_succ_eq _ m _ name).mpr ⟨child, hc, hs.parent_iff.mpr hch⟩⟩
    · rintro ⟨l, hl, m, hm, hc⟩
      cases m with
      | zero =>
        apply List.ne_nil_of_mem
        exact mem_content.mpr (.inl (mem_leafNodes.mpr ⟨l, hl, Option.some.inj hc, rfl⟩))
      | succ m =>
        obtain ⟨child, hcm, hp⟩ := (climb_succ_eq _ m _ name).mp hc
        have hne := ih.mpr ⟨l, hl, m, by omega, hcm⟩
        apply List.ne_nil_of_mem
        exact mem_content.mpr (.inr ⟨levels, child, rfl, hs.parent_iff.mp hp, hne, rfl⟩)

lemma Sound.owner_unique (hs : a.Sound) {m n : Node} {o p : String} {j k : Nat}
    (hm : m ∈ a.content j o) (hn : n ∈ a.content k p) (h : m.label o = n.label p) : o = p := by
  cases m with
  | leaf l =>
    cases n with
    | leaf l' => exact congrArg LeafKey.group (Sum.inl.inj h)
    | group g ds => cases h
  | group g ds =>
    cases n with
    | leaf l => cases h
    | group g' ds' =>
      obtain ⟨-, -, hg, -⟩ := group_mem_content.mp hm
      obtain ⟨-, -, hg', -⟩ := group_mem_content.mp hn
      have hp := hs.parent_iff.mpr hg
      rw [show g.name = g'.name from Sum.inr.inj h, hs.parent_iff.mpr hg'] at hp
      exact (Option.some.inj hp).symm

lemma Sound.nodup_placedIn (hs : a.Sound) {levels d : Nat} {name : String}
    (hd : climb a.parentOf? d name = some rootName) :
    ((Node.placedIn name (a.content levels name)).map fun p => p.2.label p.1).Nodup := by
  induction levels using Nat.strongRecOn generalizing d name with
  | ind levels ih =>
    have inner_cases {c : Node} {x : LeafKey ⊕ String} (hc : c ∈ a.content levels name)
        (hx : x ∈ c.inner.map fun p => p.2.label p.1) :
        ∃ child o n j k, c.label name = .inr child ∧ a.parentOf? child = some name ∧
          climb a.parentOf? j o = some child ∧ n ∈ a.content k o ∧ n.label o = x := by
      cases c with
      | leaf l => cases hx
      | group h ds =>
        obtain ⟨⟨o, n⟩, hm, he⟩ := List.mem_map.mp hx
        obtain ⟨k, -, hch, -, -, rfl⟩ := group_mem_content.mp hc
        obtain ⟨j, k, -, hj, hn⟩ := hs.mem_placedIn.mp hm
        exact ⟨h.name, o, n, j, k, rfl, hs.parent_iff.mpr hch, hj, hn, he⟩
    rw [((Node.perm_placedIn name _).map _).nodup_iff, List.map_append, List.map_map,
      List.map_flatMap, List.nodup_append]
    refine ⟨hs.nodup_label levels name, List.nodup_flatMap.mpr ⟨?_, ?_⟩, ?_⟩
    · intro c hc
      cases c with
      | leaf l => exact List.nodup_nil
      | group h ds =>
        obtain ⟨k, hk, hch, -, -, rfl⟩ := group_mem_content.mp hc
        have hp := (climb_one a.parentOf? h.name).trans (hs.parent_iff.mpr hch)
        exact ih k (by omega) ((climb_trans hp).trans hd)
    · -- two siblings with a common inner node would both be the ancestor of it one below this group
      apply (List.pairwise_map.mp (hs.nodup_label levels name)).imp_of_mem
      intro c c' hc hc' hne x hx hx'
      obtain ⟨g, o, n, j, k, hg, hp, hj, hn, rfl⟩ := inner_cases hc hx
      obtain ⟨g', o', n', j', k', hg', hp', hj', hn', he⟩ := inner_cases hc' hx'
      obtain rfl := hs.owner_unique hn' hn he
      rw [hg, hg', climb_same_depth hs.root hd hj hj' hp hp'] at hne
      exact hne rfl
    · -- a direct node that is also an inner one would put this group below itself
      intro x hx y hy he
      obtain ⟨n, hn, rfl⟩ := List.mem_map.mp hx
      obtain ⟨c, hc, hy⟩ := List.mem_flatMap.mp hy
      obtain ⟨g, o, n', j, k, -, hp, hj, hn', rfl⟩ := inner_cases hc hy
      obtain rfl := hs.owner_unique hn hn' he
      have := climb_no_cycle hs.root hd ((climb_succ_eq _ j name name).mpr ⟨g, hj, hp⟩)
      omega

end Assembly

end BracketQuery
