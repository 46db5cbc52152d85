import BracketQuery.Filter.Tree
import BracketQuery.Proofs.Filter.Written

/-! The groups of a tree, each one but the first in another. -/

namespace BracketQuery

namespace Node

lemma mem_groups_toNode (g : Group) : g ∈ groups g.toNode := List.mem_cons_self

lemma mem_groupsIn {cs : List Node} {g : Group} : g ∈ groupsIn cs ↔ ∃ c ∈ cs, g ∈ groups c := by
  induction cs with
  | nil => simp [groupsIn]
  | cons c cs ih => simp [groupsIn, ih]

lemma mem_filterMap_group? {cs : List Node} {g : Group} :
    g ∈ cs.filterMap group? ↔ g.toNode ∈ cs := by
  rw [List.mem_filterMap]
  constructor
  · rintro ⟨n, hn, h⟩
    cases n with
    | leaf l => cases h
    | group k ds =>
      cases h
      exact hn
  · exact fun h => ⟨g.toNode, h, rfl⟩

lemma mem_filterMap_leaf? {cs : List Node} {l : Leaf} :
    l ∈ cs.filterMap leaf? ↔ leaf l ∈ cs := by
  rw [List.mem_filterMap]
  constructor
  · rintro ⟨n, hn, h⟩
    cases n with
    | leaf l =>
      cases h
      exact hn
    | group k ds => cases h
  · exact fun h => ⟨leaf l, h, rfl⟩

mutual

theorem mem_groups_of_child : ∀ {n : Node} {g k : Group},
    g ∈ groups n → k.toNode ∈ g.children → k ∈ groups n
  | leaf l, g, k, hg, hk => by cases hg
  | group h cs, g, k, hg, hk => by
    rcases List.mem_cons.mp hg with rfl | hg
    · exact List.mem_cons_of_mem _ (mem_groupsIn.mpr ⟨_, hk, mem_groups_toNode k⟩)
    · exact List.mem_cons_of_mem _ (mem_groupsIn_of_child hg hk)

theorem mem_groupsIn_of_child : ∀ {cs : List Node} {g k : Group},
    g ∈ groupsIn cs → k.toNode ∈ g.children → k ∈ groupsIn cs
  | [], g, k, hg, hk => by cases hg
  | c :: cs, g, k, hg, hk => by
    rcases List.mem_append.mp hg with hg | hg
    · exact List.mem_append_left _ (mem_groups_of_child hg hk)
    · exact List.mem_append_right _ (mem_groupsIn_of_child hg hk)

end

mutual

theorem mem_groups_cases : ∀ {n : Node} {g : Group},
    g ∈ groups n → g.toNode = n ∨ ∃ k ∈ groups n, g.toNode ∈ k.children
  | leaf l, g, hg => by cases hg
  | group h cs, g, hg => by
    rcases List.mem_cons.mp hg with rfl | hg
    · exact .inl rfl
    · rcases mem_groupsIn_cases hg with hc | ⟨k, hk, hc⟩
      · exact .inr ⟨⟨h, cs⟩, List.mem_cons_self, hc⟩
      · exact .inr ⟨k, List.mem_cons_of_mem _ hk, hc⟩

theorem mem_groupsIn_cases : ∀ {cs : List Node} {g : Group},
    g ∈ groupsIn cs → g.toNode ∈ cs ∨ ∃ k ∈ groupsIn cs, g.toNode ∈ k.children
  | [], g, hg => by cases hg
  | c :: cs, g, hg => by
    rcases List.mem_append.mp hg with hg | hg
    · rcases mem_groups_cases hg with rfl | ⟨k, hk, hc⟩
      · exact .inl List.mem_cons_self
      · exact .inr ⟨k, List.mem_append_left _ hk, hc⟩
    · rcases mem_groupsIn_cases hg with hc | ⟨k, hk, hc⟩
      · exact .inl (List.mem_cons_of_mem _ hc)
      · exact .inr ⟨k, List.mem_append_right _ hk, hc⟩

end

def childNames (cs : List Node) : List String := (cs.filterMap group?).map fun g => g.name

mutual

theorem perm_groups : ∀ n : Node, ((groups n).map fun g => g.name).Perm
    ((group? n).toList.map (fun g => g.name) ++ (groups n).flatMap fun g => childNames g.children)
  | leaf _ => .nil
  | group h cs => (perm_groupsIn cs).cons h.name

theorem perm_groupsIn : ∀ cs : List Node, ((groupsIn cs).map fun g => g.name).Perm
    (childNames cs ++ (groupsIn cs).flatMap fun g => childNames g.children)
  | [] => .nil
  | c :: cs => by
    have hnames : childNames (c :: cs) = (group? c).toList.map (fun g => g.name) ++ childNames cs := by
      cases c <;> rfl
    rw [groupsIn, List.map_append, List.flatMap_append, hnames]
    refine ((perm_groups c).append (perm_groupsIn cs)).trans ?_
    rw [List.append_assoc, List.append_assoc]
    refine List.Perm.append_left _ ?_
    rw [← List.append_assoc, ← List.append_assoc]
    exact List.perm_append_comm.append_right _

end

lemma depth_le_depthIn {n : Node} {cs : List Node} (h : n ∈ cs) : n.depth ≤ depthIn cs := by
  induction cs with
  | nil => cases h
  | cons c cs ih =>
    rw [depthIn]
    rcases List.mem_cons.mp h with rfl | h
    · exact Nat.le_max_left _ _
    · exact Nat.le_trans (ih h) (Nat.le_max_right _ _)

lemma depth_toNode (g : Group) : g.toNode.depth = depthIn g.children + 1 := rfl

end Node

end BracketQuery
