import BracketQuery.Proofs.Assembly.Lineage
import BracketQuery.Proofs.Assembly.Tables
import Mathlib.Data.List.Nodup
import Mathlib.Data.Sum.Basic

/-! The tree of an assembly without its errors and its cycles: neither comes up below the root. -/

namespace BracketQuery

lemma mapM_eq_ok {α β ε : Type} {f : α → Except ε β} {g : α → β} {xs : List α}
    (h : ∀ x ∈ xs, f x = .ok (g x)) : xs.mapM f = .ok (xs.map g) := by
  induction xs with
  | nil => rfl
  | cons x xs ih =>
    rw [List.mapM_cons, h x (by simp), ih fun y hy => h y (by simp [hy])]
    rfl

lemma mapM_congr {α β : Type} {m : Type → Type} [Monad m] [LawfulMonad m] {f g : α → m β}
    {xs : List α} (h : ∀ x ∈ xs, f x = g x) : xs.mapM f = xs.mapM g := by
  induction xs with
  | nil => rfl
  | cons x xs ih =>
    rw [List.mapM_cons, List.mapM_cons, h x List.mem_cons_self,
      ih fun y hy => h y (List.mem_cons_of_mem x hy)]

namespace Node

/-- What tells the nodes of a tree apart: the key of a leaf or the name of a group. -/
def label (owner : String) : Node → LeafKey ⊕ String
  | leaf l => .inl ⟨owner, l.path, l.operator⟩
  | group h _ => .inr h.name

lemma label_eq_of_alike {m n : Node} (owner : String) (h : m.alike n) :
    m.label owner = n.label owner := by
  cases m with
  | leaf a =>
    cases n with
    | leaf b => simp_all [alike, Leaf.alike, label]
    | group g cs => simp [alike] at h
  | group g cs =>
    cases n with
    | leaf b => simp [alike] at h
    | group k ds =>
      simp only [alike, Bool.and_eq_true, beq_iff_eq] at h
      simp [label, h.1]

lemma firsts_of_nodup_label {ns : List Node} {owner : String} (h : (ns.map (label owner)).Nodup) :
    firsts alike ns = ns := by
  apply firsts_of_pairwise
  apply (List.pairwise_map.mp h).imp
  intro m n hne
  rw [Bool.eq_false_iff]
  exact fun ha => hne (label_eq_of_alike owner ha)

end Node

namespace Assembly

variable (a : Assembly)

def parentOf? (name : String) : Option String := a.parents.lookup name

def leafNode (l : LeafKey × ValueSet) : Node :=
  .leaf ⟨l.1.path, some l.1.group, l.1.path, l.1.operator, l.2⟩

def leafNodes (name : String) : List Node :=
  (a.leaves.filter fun l => l.1.group == name).map leafNode

def heading (name : String) (parent : Option String) : Heading :=
  ⟨name, parent, (a.conjunctions.lookup name).getD .and⟩

def content : Nat → String → List Node
  | 0, name => a.leafNodes name
  | levels + 1, name =>
    a.leafNodes name ++
      ((a.childrenOf name).filter fun child => !(content levels child).isEmpty).map fun child =>
        .group (a.heading child (some name)) (content levels child)

def group? (name : String) (parent : Option String) (children : List Node) : Option Group :=
  if children.isEmpty then none else some ⟨a.heading name parent, children⟩

structure Rooted : Prop where
  groups : (a.parents.map Prod.fst).Nodup
  root : a.parentOf? rootName = none

structure Sound : Prop where
  path : ∀ l ∈ a.leaves, Text.isBlankString l.1.path = false
  name : ∀ p ∈ a.parents, Text.isBlankString p.1 = false
  keys : (a.leaves.map Prod.fst).Nodup
  groups : (a.parents.map Prod.fst).Nodup
  root : a.parentOf? rootName = none

variable {a}

lemma mem_childrenOf {name child : String} :
    child ∈ a.childrenOf name ↔ (child, name) ∈ a.parents := by
  simp only [childrenOf, List.mem_filterMap]
  constructor
  · rintro ⟨⟨c, p⟩, hm, h⟩
    split at h
    · next hp =>
      cases h
      exact hp ▸ hm
    · cases h
  · intro h
    exact ⟨_, h, by simp⟩

lemma Rooted.parent_iff (hr : a.Rooted) {name child : String} :
    a.parentOf? child = some name ↔ child ∈ a.childrenOf name := by
  rw [parentOf?, lookup_eq_some_iff_mem hr.groups, mem_childrenOf]

lemma Sound.rooted (hs : a.Sound) : a.Rooted := ⟨hs.groups, hs.root⟩

lemma Sound.parent_iff (hs : a.Sound) {name child : String} :
    a.parentOf? child = some name ↔ child ∈ a.childrenOf name :=
  hs.rooted.parent_iff

lemma childrenOf_eq (a : Assembly) (name : String) :
    a.childrenOf name = (a.parents.filter fun p => p.2 = name).map Prod.fst := by
  rw [childrenOf]
  induction a.parents with
  | nil => rfl
  | cons p ps ih => by_cases hp : p.2 = name <;> simp [hp, ih]

lemma nodup_childrenOf (h : (a.parents.map Prod.fst).Nodup) (name : String) :
    (a.childrenOf name).Nodup := by
  rw [childrenOf_eq]
  exact h.sublist (List.filter_sublist.map _)

lemma map_label_leafNodes (name : String) :
    (a.leafNodes name).map (Node.label name) =
      ((a.leaves.map Prod.fst).filter fun k => k.group == name).map .inl := by
  rw [leafNodes, List.filter_map, List.map_map, List.map_map]
  apply List.map_congr_left
  intro l hl
  have hg : l.1.group = name := by simpa using (List.mem_filter.mp hl).2
  simp [leafNode, Node.label, ← hg]

lemma Sound.nodup_label (hs : a.Sound) (levels : Nat) (name : String) :
    ((a.content levels name).map (Node.label name)).Nodup := by
  have hl : ((a.leafNodes name).map (Node.label name)).Nodup := by
    rw [map_label_leafNodes]
    exact (hs.keys.filter _).map Sum.inl_injective
  cases levels with
  | zero => exact hl
  | succ levels =>
    rw [content, List.map_append, List.map_map, List.nodup_append]
    refine ⟨hl, ?_, ?_⟩
    · exact ((nodup_childrenOf hs.groups name).filter _).map Sum.inr_injective
    · rw [map_label_leafNodes]
      intro x hx y hy he
      obtain ⟨k, -, rfl⟩ := List.mem_map.mp hx
      obtain ⟨c, -, rfl⟩ := List.mem_map.mp hy
      cases he

lemma Sound.leavesOf_eq (hs : a.Sound) (name : String) :
    a.leavesOf name = .ok (a.leafNodes name) := by
  apply mapM_eq_ok
  intro l hl
  rw [List.mem_filter] at hl
  have hp := hs.path l hl.1
  have hg : l.1.group = name := by simpa using hl.2
  simp [Leaf.make, hp, leafNode, hg, ValueSet.ofList_toList, Except.map]

lemma close_eq {name : String} (parent : Option String) {children : List Node}
    (hn : Text.isBlankString name = false) (hc : (children.map (Node.label name)).Nodup) :
    a.close name parent children = .ok (a.group? name parent children) := by
  unfold close group?
  split
  · rfl
  · rw [Group.make, hn, Node.firsts_of_nodup_label hc]
    rfl

lemma filterMap_group? (name : String) (levels : Nat) (children : List String) :
    (children.map fun child => a.group? child (some name) (a.content levels child)).filterMap
        (fun g => g.map Group.toNode) =
      (children.filter fun child => !(a.content levels child).isEmpty).map fun child =>
        .group (a.heading child (some name)) (a.content levels child) := by
  induction children with
  | nil => rfl
  | cons c cs ih =>
    rw [List.map_cons, List.filterMap_cons, ih]
    cases hc : (a.content levels c).isEmpty <;> simp [group?, hc, Group.toNode]

lemma Sound.name_of_parent (hs : a.Sound) {child name : String}
    (h : a.parentOf? child = some name) : Text.isBlankString child = false :=
  hs.name (child, name) ((lookup_eq_some_iff_mem hs.groups).mp h)

def assembleGroup {m : Type → Type} [Monad m] [MonadLiftT (Except QueryError) m] (a : Assembly)
    (inner : String → m (Option Group)) (name : String) (parent : Option String) :
    m (Option Group) := do
  let leaves ← liftM (a.leavesOf name)
  let groups ← (a.childrenOf name).mapM inner
  liftM (a.close name parent (leaves ++ groups.filterMap fun g => g.map Group.toNode))

lemma assembleGroup_congr {m : Type → Type} [Monad m] [LawfulMonad m]
    [MonadLiftT (Except QueryError) m] {inner inner' : String → m (Option Group)} {name : String}
    {parent : Option String} (h : ∀ child ∈ a.childrenOf name, inner child = inner' child) :
    a.assembleGroup inner name parent = a.assembleGroup inner' name parent := by
  rw [assembleGroup, assembleGroup, mapM_congr h]

variable {name : String} {parent : Option String} {ancestors : List String}

lemma build_succ (levels : Nat) :
    a.build (levels + 1) ancestors name parent = a.assembleGroup (fun child =>
      if (name :: ancestors).contains child then .ok none
      else a.build levels (name :: ancestors) child (some name)) name parent := rfl

/-- The recursion is at a group below the root and has come through these groups above it. -/
structure Below (a : Assembly) (ancestors : List String) (name : String) : Prop where
  root : ∃ d, climb a.parentOf? d name = some rootName
  above : ∀ x ∈ ancestors, ∃ m, climb a.parentOf? (m + 1) name = some x

lemma below_root (a : Assembly) : a.Below [] rootName := ⟨⟨0, rfl⟩, nofun⟩

lemma Below.child (hr : a.Rooted) (h : a.Below ancestors name) {child : String}
    (hc : child ∈ a.childrenOf name) : a.Below (name :: ancestors) child := by
  have hp := hr.parent_iff.mpr hc
  have up {n : Nat} {x : String} (hx : climb a.parentOf? n name = some x) :
      climb a.parentOf? (n + 1) child = some x := by
    rw [climb, hp]
    exact hx
  obtain ⟨d, hd⟩ := h.root
  refine ⟨⟨d + 1, up hd⟩, fun x hx => ?_⟩
  rcases List.mem_cons.mp hx with rfl | hx
  · exact ⟨0, up rfl⟩
  · obtain ⟨m, hm⟩ := h.above x hx
    exact ⟨m + 1, up hm⟩

lemma Below.not_mem (hr : a.Rooted) (h : a.Below ancestors name) : name ∉ ancestors := by
  intro hx
  obtain ⟨d, hd⟩ := h.root
  obtain ⟨m, hm⟩ := h.above name hx
  exact absurd (climb_no_cycle hr.root hd hm) (by omega)

lemma Below.not_contains (hr : a.Rooted) (h : a.Below ancestors name) {child : String}
    (hc : child ∈ a.childrenOf name) : ¬(name :: ancestors).contains child = true := by
  simpa using (h.child hr hc).not_mem hr

lemma build_succ_below (hr : a.Rooted) (h : a.Below ancestors name) (levels : Nat) :
    a.build (levels + 1) ancestors name parent = a.assembleGroup
      (fun child => a.build levels (name :: ancestors) child (some name)) name parent := by
  rw [build_succ]
  exact assembleGroup_congr fun child hc => if_neg (h.not_contains hr hc)

lemma Sound.build_eq (hs : a.Sound) (levels : Nat) (parent : Option String)
    (h : a.Below ancestors name) (hn : Text.isBlankString name = false) :
    a.build levels ancestors name parent = .ok (a.group? name parent (a.content levels name)) := by
  induction levels generalizing ancestors name parent with
  | zero =>
    rw [build, hs.leavesOf_eq]
    exact close_eq parent hn (hs.nodup_label 0 name)
  | succ levels ih =>
    have hgroups : (a.childrenOf name).mapM
        (fun child => a.build levels (name :: ancestors) child (some name)) =
        .ok ((a.childrenOf name).map fun child =>
          a.group? child (some name) (a.content levels child)) :=
      mapM_eq_ok fun child hc => ih (some name) (h.child hs.rooted hc)
        (hs.name_of_parent (hs.parent_iff.mpr hc))
    rw [build_succ_below hs.rooted h, assembleGroup, hgroups, hs.leavesOf_eq]
    change a.close name parent (a.leafNodes name ++ _) = _
    rw [filterMap_group?]
    exact close_eq parent hn (hs.nodup_label (levels + 1) name)

end Assembly

lemma Assembly.Holds.sound {a : Assembly} {cs : List Capture} (h : a.Holds cs)
    (hc : ∀ c ∈ cs, c.IsNamed) : a.Sound := by
  refine ⟨?_, ?_, ?_, h.nodup, ?_⟩
  · intro l hl
    rw [h.leaves] at hl
    obtain ⟨k, hk, rfl⟩ := List.mem_map.mp hl
    obtain ⟨c, hm, rfl⟩ := Capture.mem_leafKeys.mp (mem_distinctItems.mp hk)
    exact (hc _ hm).1
  · intro p hp
    have hl := h.parent p.1
    rw [(lookup_eq_some_iff_mem h.nodup).mpr hp, Capture.parentOf?] at hl
    split at hl
    · cases hl
    · obtain ⟨d, hd, -⟩ := Option.map_eq_some_iff.mp hl.symm
      have hname := List.find?_some hd
      simp only [Bool.and_eq_true, decide_eq_true_eq] at hname
      rw [← hname.1]
      exact (hc _ (Capture.mem_filterMap_declaration?.mp (List.mem_of_find?_eq_some hd))).1
  · rw [h.leaves, List.map_map]
    exact (List.map_id _).symm ▸ nodup_distinctItems _
  · rw [Assembly.parentOf?, h.parent, Capture.parentOf?_root]

lemma Assembly.Holds.heading_eq {a : Assembly} {cs : List Capture} (h : a.Holds cs) (g : String)
    (parent : Option String) : a.heading g parent = ⟨g, parent, Capture.conjunctionOf cs g⟩ := by
  rw [heading, h.conjunction]

theorem assemble_eq {cs : List Capture} (hc : ∀ c ∈ cs, c.IsNamed) (h : Capture.Agree cs) :
    ∃ a : Assembly, a.Holds cs ∧ a.Sound ∧
      assemble cs = .ok (a.group? rootName none (a.content maxGroupDepth rootName)) := by
  obtain ⟨a, ha, hh⟩ := Assembly.ofCaptures_holds h
  have hs := hh.sound hc
  refine ⟨a, hh, hs, ?_⟩
  rw [assemble, ha]
  exact hs.build_eq maxGroupDepth none a.below_root (by decide)

def Group.ofCondition (path : String) (op : Operator) (values : List String) : Group :=
  ⟨⟨rootName, none, .and⟩, [.leaf ⟨path, some rootName, path, op, .ofList values⟩]⟩

lemma assemble_condition {path : String} (hb : Text.isBlankString path = false) (op : Operator)
    (values : List String) : assemble [.clause ⟨none, none, path, op, values⟩] =
      .ok (some (.ofCondition path op values)) := by
  have hn : ∀ c ∈ [Capture.clause ⟨none, none, path, op, values⟩], c.IsNamed := by
    intro c hc
    obtain rfl := List.mem_singleton.mp hc
    exact ⟨hb, nofun⟩
  obtain ⟨a, hh, -, ht⟩ := assemble_eq hn nofun
  have hleaves : a.leaves = [(⟨rootName, path, op⟩, .ofList values)] := by
    have hvalues : Capture.valuesOf [.clause ⟨none, none, path, op, values⟩] ⟨rootName, path, op⟩ =
        .ofList values := by
      simp [Capture.valuesOf, Capture.clause?, Clause.key]
    rw [hh.leaves, ← hvalues]
    rfl
  have hchildren : a.childrenOf rootName = [] := by
    rw [Assembly.childrenOf, hh.parents]
    rfl
  have hcontent : a.content maxGroupDepth rootName =
      [.leaf ⟨path, some rootName, path, op, .ofList values⟩] := by
    rw [maxGroupDepth, Assembly.content, hchildren, Assembly.leafNodes, hleaves]
    rfl
  rw [ht, hcontent, Assembly.group?, hh.heading_eq]
  rfl

end BracketQuery
