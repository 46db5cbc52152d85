import BracketQuery.Proofs.Assembly.Content

/-! The tree of a query holds every leaf and every group that its pairs ask for, each once, and no
other. -/

namespace BracketQuery

namespace Capture

/-- The root is so few steps up that the group is not cut off. -/
def Reaches (cs : List Capture) (g : String) : Prop :=
  ∃ n ≤ maxGroupDepth, climb (parentOf? cs) n g = some rootName

def Kept (cs : List Capture) (k : LeafKey) : Prop := k ∈ leafKeys cs ∧ Reaches cs k.group

def Occupied (cs : List Capture) (g : String) : Prop :=
  Reaches cs g ∧ ∃ k, Kept cs k ∧ ∃ m, climb (parentOf? cs) m k.group = some g

instance (cs : List Capture) : Decidable (Agree cs) :=
  inferInstanceAs (Decidable (∀ p ∈ _, ∀ q ∈ _, _))

instance : DecidablePred IsNamed
  | declaration d =>
    inferInstanceAs (Decidable (_ ∧ ∀ p ∈ d.parent, Text.isBlankString p = false))
  | clause c =>
    inferInstanceAs (Decidable (_ ∧ ∀ p ∈ c.parent, Text.isBlankString p = false))

end Capture

structure Group.IsTreeOf (t : Group) (cs : List Capture) : Prop where
  heading : t.toHeading = ⟨rootName, none, Capture.conjunctionOf cs rootName⟩
  once : (t.placed.map fun p => p.2.label p.1).Nodup
  leaf : ∀ o l, (o, .leaf l) ∈ t.placed ↔
    ∃ k, Capture.Kept cs k ∧ o = k.group ∧ l = Capture.leafOf cs k
  group : ∀ o h, (∃ ds, (o, .group h ds) ∈ t.placed) ↔
    Capture.Occupied cs h.name ∧ Capture.parentOf? cs h.name = some o ∧
      h = ⟨h.name, some o, Capture.conjunctionOf cs h.name⟩

namespace Assembly.Holds

variable {a : Assembly} {cs : List Capture}

lemma parentOf?_eq (h : a.Holds cs) : a.parentOf? = Capture.parentOf? cs := funext h.parent

lemma mem_leaves (h : a.Holds cs) {l : LeafKey × ValueSet} :
    l ∈ a.leaves ↔ ∃ k ∈ Capture.leafKeys cs, l = (k, Capture.valuesOf cs k) := by
  simp only [h.leaves, List.mem_map, mem_distinctItems, eq_comm]

lemma leaf_mem_leafNodes (h : a.Holds cs) {l : Leaf} {g : String} :
    .leaf l ∈ a.leafNodes g ↔
      ∃ k ∈ Capture.leafKeys cs, k.group = g ∧ l = Capture.leafOf cs k := by
  rw [mem_leafNodes]
  constructor
  · rintro ⟨p, hp, hg, he⟩
    obtain ⟨k, hk, rfl⟩ := h.mem_leaves.mp hp
    exact ⟨k, hk, hg, Node.leaf.inj he⟩
  · rintro ⟨k, hk, hg, rfl⟩
    exact ⟨_, h.mem_leaves.mpr ⟨k, hk, rfl⟩, hg, rfl⟩

lemma content_ne_nil (h : a.Holds cs) (hs : a.Sound) (levels : Nat) (g : String) :
    a.content levels g ≠ [] ↔
      ∃ k ∈ Capture.leafKeys cs, ∃ m ≤ levels, climb (Capture.parentOf? cs) m k.group = some g := by
  rw [hs.content_ne_nil, h.parentOf?_eq]
  constructor
  · rintro ⟨l, hl, hm⟩
    obtain ⟨k, hk, rfl⟩ := h.mem_leaves.mp hl
    exact ⟨k, hk, hm⟩
  · rintro ⟨k, hk, hm⟩
    exact ⟨_, h.mem_leaves.mpr ⟨k, hk, rfl⟩, hm⟩

lemma isTreeOf (h : a.Holds cs) (hs : a.Sound) :
    Group.IsTreeOf ⟨a.heading rootName none, a.content maxGroupDepth rootName⟩ cs := by
  have root := Capture.parentOf?_root cs
  refine ⟨h.heading_eq rootName none, hs.nodup_placedIn (d := 0) rfl, ?_, ?_⟩
  · intro o l
    rw [Group.placed, heading, hs.mem_placedIn, h.parentOf?_eq]
    constructor
    · rintro ⟨m, k, hmk, hc, hl⟩
      obtain ⟨key, hk, rfl, rfl⟩ := h.leaf_mem_leafNodes.mp (leaf_mem_content.mp hl)
      exact ⟨key, ⟨hk, m, by omega, hc⟩, rfl, rfl⟩
    · rintro ⟨key, ⟨hk, m, hm, hc⟩, rfl, rfl⟩
      exact ⟨m, maxGroupDepth - m, by omega, hc,
        leaf_mem_content.mpr (h.leaf_mem_leafNodes.mpr ⟨key, hk, rfl, rfl⟩)⟩
  · intro o head
    simp only [Group.placed, h.heading_eq, hs.mem_placedIn, group_mem_content, ← hs.parent_iff,
      h.content_ne_nil hs, h.parentOf?_eq]
    constructor
    · rintro ⟨ds, m, k, hmk, hc, j, rfl, hp, ⟨key, hk, i, hi, hci⟩, hh, -⟩
      have hr : climb (Capture.parentOf? cs) (m + 1) head.name = some rootName := by
        rw [climb, hp]
        exact hc
      refine ⟨⟨⟨m + 1, by omega, hr⟩, key, ⟨hk, i + (m + 1), by omega, ?_⟩, i, hci⟩, hp, hh⟩
      rw [climb_trans hci, hr]
    · rintro ⟨⟨⟨n, hn, hr⟩, key, ⟨hk, d, hd, hkr⟩, i, hci⟩, hp, hh⟩
      cases n with
      | zero =>
        rw [Option.some.inj hr, root] at hp
        cases hp
      | succ m =>
        have hc : climb (Capture.parentOf? cs) m o = some rootName := by
          rw [climb, hp] at hr
          exact hr
        have hdi := climb_unique root hkr ((climb_trans hci).trans hr)
        exact ⟨_, m, maxGroupDepth - m, by omega, hc, maxGroupDepth - (m + 1), by omega, hp,
          ⟨key, hk, i, by omega, hci⟩, hh, rfl⟩

end Assembly.Holds

/-- Pairs without a conflict lose nothing on their way into the tree, and nothing is invented: there
is a tree exactly if there is a leaf to keep. -/
theorem assemble_exact {cs : List Capture} (hn : ∀ c ∈ cs, c.IsNamed) (ha : Capture.Agree cs) :
    ∃ t, assemble cs = .ok t ∧ (t = none ↔ ∀ k, ¬ Capture.Kept cs k) ∧
      ∀ g ∈ t, g.IsTreeOf cs := by
  obtain ⟨a, hh, hs, ht⟩ := assemble_eq hn ha
  refine ⟨_, ht, ?_, ?_⟩
  · have hne := hh.content_ne_nil hs maxGroupDepth rootName
    rw [← not_iff_not, not_forall_not]
    constructor
    · intro h
      have hc : a.content maxGroupDepth rootName ≠ [] := fun he => h (by simp [Assembly.group?, he])
      obtain ⟨k, hk, hr⟩ := hne.mp hc
      exact ⟨k, hk, hr⟩
    · rintro ⟨k, hk, hr⟩
      have hc := hne.mpr ⟨k, hk, hr⟩
      simp [Assembly.group?, hc]
  · intro g hg
    rw [Assembly.group?] at hg
    split at hg
    · cases hg
    · cases hg
      exact hh.isTreeOf hs

/-- Groups before their parents, a group in itself, a second parent, a cycle, a parent that is not
declared, a group without leaves, and a leaf in two pieces. -/
def tangledPairs : List Capture :=
  [ .declaration ⟨"inner", some "outer", some .or⟩,
    .declaration ⟨"outer", some "outer", none⟩,
    .clause ⟨some "inner", none, "age", .isIn, ["1", "2", "1"]⟩,
    .declaration ⟨"outer", none, none⟩,
    .declaration ⟨"inner", some "bare", some .or⟩,
    .declaration ⟨"bare", none, none⟩,
    .declaration ⟨"left", some "right", none⟩,
    .declaration ⟨"right", some "left", none⟩,
    .clause ⟨some "left", some .or, "age", .isIn, ["3"]⟩,
    .declaration ⟨"orphan", some "ghost", none⟩,
    .clause ⟨some "orphan", none, "age", .equalTo, ["4"]⟩,
    .clause ⟨some "inner", none, "age", .isIn, ["2", "5"]⟩ ]

theorem assemble_tangledPairs :
    (∀ c ∈ tangledPairs, c.IsNamed) ∧ Capture.Agree tangledPairs ∧
      Capture.Kept tangledPairs ⟨"inner", "age", .isIn⟩ ∧
      ∃ t, assemble tangledPairs = .ok t ∧ (t = none ↔ ∀ k, ¬ Capture.Kept tangledPairs k) ∧
        ∀ g ∈ t, g.IsTreeOf tangledPairs := by
  have hn : ∀ c ∈ tangledPairs, c.IsNamed := by decide
  have ha : Capture.Agree tangledPairs := by decide
  have hk : Capture.Kept tangledPairs ⟨"inner", "age", .isIn⟩ := ⟨by decide, 2, by decide, by decide⟩
  exact ⟨hn, ha, hk, assemble_exact hn ha⟩

end BracketQuery
