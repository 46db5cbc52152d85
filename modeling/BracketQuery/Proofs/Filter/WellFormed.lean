import BracketQuery.Filter.Parser
import BracketQuery.Proofs.Assembly.Exact
import BracketQuery.Proofs.Expression.Denotation
import BracketQuery.Proofs.Filter.Groups
import BracketQuery.Proofs.Text.Blank
import BracketQuery.Proofs.Text.Split

/-! Every tree that a parser gives is well-formed and compiles. -/

namespace BracketQuery

lemma Operator.ofToken?_ne_none {token : String} {o : Operator} (h : ofToken? token = some o) :
    o ≠ none := by
  have hall : ∀ p ∈ tokens, p.2 ≠ none := by decide
  obtain ⟨p, hp, rfl⟩ := Option.map_eq_some_iff.mp h
  exact hall p (List.mem_of_find?_eq_some hp)

namespace Capture

lemma not_isBlankString_of_nonBlank {s t : String} (h : nonBlank s = some t) :
    Text.isBlankString t = false := by
  simp only [nonBlank, Option.ite_none_left_eq_some, Option.some.injEq] at h
  obtain ⟨hne, rfl⟩ := h
  exact Text.not_isBlankString_trimmed hne

def IsUsable : Capture → Prop
  | declaration d => (declaration d).IsNamed
  | clause c => (clause c).IsNamed ∧ c.operator ≠ .none ∧ c.values ≠ [] ∧
    ∃ s ∈ Text.pieces '.' c.path, Text.isBlankString s = false

lemma IsUsable.isNamed {c : Capture} (h : c.IsUsable) : c.IsNamed := by
  cases c with
  | declaration d => exact h
  | clause c => exact h.1

lemma mem_of_parentOrSegments {member index path : Option String} {g : String}
    (h : g ∈ (parentOrSegments member index path).1) : g ∈ member := by
  unfold parentOrSegments at h
  split at h
  · split at h
    · exact h
    · cases h
  · cases h
  · cases h

lemma isUsable_of_ofMatch? {d : Char} {m : GrammarMatch} {c : Capture}
    (h : ofMatch? d m = some c) : c.IsUsable := by
  have hmember : ∀ p ∈ (m.get FilterGrammar.memberOf).bind nonBlank,
      Text.isBlankString p = false := by
    intro p hp
    obtain ⟨s, -, hs⟩ := Option.bind_eq_some_iff.mp hp
    exact not_isBlankString_of_nonBlank hs
  unfold ofMatch? at h
  split at h
  · obtain ⟨name, hname, rfl⟩ := Option.map_eq_some_iff.mp h
    exact ⟨not_isBlankString_of_nonBlank hname, hmember⟩
  · simp only [Option.ite_none_left_eq_some, Bool.not_eq_true, Option.some.injEq] at h
    obtain ⟨hpath, rfl⟩ := h
    obtain ⟨s, hs, hb⟩ := List.all_eq_false.mp hpath
    rw [Bool.not_eq_true] at hb
    refine ⟨⟨Text.not_isBlankString_of_piece hs hb, ?_⟩, ?_, ?_, s, hs, hb⟩
    · exact fun p hp => hmember p (mem_of_parentOrSegments hp)
    · cases ho : (m.getNonEmpty FilterGrammar.operator).bind Operator.ofToken? with
      | none => exact nofun
      | some o =>
        obtain ⟨token, -, ht⟩ := Option.bind_eq_some_iff.mp ho
        exact Operator.ofToken?_ne_none ht
    · split
      · exact List.cons_ne_nil _ _
      · exact fun hnil => Text.splitWhere_ne_nil _ _ (List.map_eq_nil_iff.mp hnil)

end Capture

structure Leaf.IsWellFormed (owner : String) (l : Leaf) : Prop where
  name : l.name = l.path
  groupName : l.groupName = some owner
  operator : l.operator ≠ .none
  values : l.values.toList ≠ []
  distinct : l.values.toList.Nodup
  segments : l.segments ≠ []

structure Group.IsWellFormed (t : Group) : Prop where
  name : t.name = rootName
  groupName : t.groupName = none
  depth : Node.depthIn t.children ≤ maxGroupDepth
  names : (t.toNode.groups.map fun g => g.name).Nodup
  sorted : ∀ g ∈ t.toNode.groups, g.IsSorted
  leaf : ∀ g ∈ t.toNode.groups, ∀ l, .leaf l ∈ g.children → l.IsWellFormed g.name
  group : ∀ g ∈ t.toNode.groups, ∀ k : Group, k.toNode ∈ g.children → k.groupName = some g.name

namespace Node

lemma depthIn_le {n : Nat} {cs : List Node} (h : ∀ c ∈ cs, c.depth ≤ n) : depthIn cs ≤ n := by
  induction cs with
  | nil => exact Nat.zero_le n
  | cons c cs ih =>
    rw [depthIn]
    exact Nat.max_le.mpr ⟨h c (by simp), ih fun d hd => h d (by simp [hd])⟩

mutual

theorem sublist_groups : ∀ (owner : String) (n : Node),
    ((groups n).map fun g => (.inr g.name : LeafKey ⊕ String)).Sublist
      ((placed owner n).map fun p => p.2.label p.1)
  | _, leaf _ => List.nil_sublist _
  | _, group h cs => (sublist_groupsIn h.name cs).cons_cons _

theorem sublist_groupsIn : ∀ (owner : String) (cs : List Node),
    ((groupsIn cs).map fun g => (.inr g.name : LeafKey ⊕ String)).Sublist
      ((placedIn owner cs).map fun p => p.2.label p.1)
  | _, [] => List.nil_sublist _
  | owner, c :: cs => by
    rw [groupsIn, placedIn, List.map_append, List.map_append]
    exact (sublist_groups owner c).append (sublist_groupsIn owner cs)

end

mutual

theorem mem_leaves_cases : ∀ {n : Node} {l : Leaf}, l ∈ leaves n →
    n = leaf l ∨ ∃ g ∈ groups n, leaf l ∈ g.children
  | leaf k, l, h => .inl (congrArg leaf (List.mem_singleton.mp h).symm)
  | group h cs, l, hl => by
    rcases mem_leavesIn_cases hl with hc | ⟨g, hg, hc⟩
    · exact .inr ⟨⟨h, cs⟩, List.mem_cons_self, hc⟩
    · exact .inr ⟨g, List.mem_cons_of_mem _ hg, hc⟩

theorem mem_leavesIn_cases : ∀ {cs : List Node} {l : Leaf}, l ∈ leavesIn cs →
    leaf l ∈ cs ∨ ∃ g ∈ groupsIn cs, leaf l ∈ g.children
  | [], l, h => by cases h
  | c :: cs, l, h => by
    rcases List.mem_append.mp h with h | h
    · rcases mem_leaves_cases h with rfl | ⟨g, hg, hc⟩
      · exact .inl List.mem_cons_self
      · exact .inr ⟨g, List.mem_append_left _ hg, hc⟩
    · rcases mem_leavesIn_cases h with hc | ⟨g, hg, hc⟩
      · exact .inl (List.mem_cons_of_mem _ hc)
      · exact .inr ⟨g, List.mem_append_right _ hg, hc⟩

end

end Node

namespace Assembly

variable {a : Assembly} {levels : Nat} {name : String}

lemma depthIn_content : Node.depthIn (a.content levels name) ≤ levels := by
  induction levels generalizing name with
  | zero =>
    refine Node.depthIn_le fun c hc => ?_
    obtain ⟨l, -, -, rfl⟩ := mem_leafNodes.mp hc
    exact Nat.le_refl 0
  | succ levels ih =>
    refine Node.depthIn_le fun c hc => ?_
    cases c with
    | leaf l => exact Nat.zero_le _
    | group h ds =>
      obtain ⟨k, hk, -, -, -, rfl⟩ := group_mem_content.mp hc
      obtain rfl : levels = k := by omega
      exact Nat.succ_le_succ ih

lemma mem_groupsIn_content {g : Group} (h : g ∈ Node.groupsIn (a.content levels name)) :
    ∃ k parent, g.name ∈ a.childrenOf parent ∧ a.content k g.name ≠ [] ∧
      g = ⟨a.heading g.name (some parent), a.content k g.name⟩ := by
  induction levels generalizing name with
  | zero =>
    obtain ⟨c, hc, hg⟩ := Node.mem_groupsIn.mp h
    obtain ⟨l, -, -, rfl⟩ := mem_leafNodes.mp hc
    cases hg
  | succ levels ih =>
    obtain ⟨c, hc, hg⟩ := Node.mem_groupsIn.mp h
    cases c with
    | leaf l => cases hg
    | group head ds =>
      obtain ⟨k, hk, hm, hne, hh, rfl⟩ := group_mem_content.mp hc
      obtain rfl : levels = k := by omega
      rcases List.mem_cons.mp hg with rfl | hg
      · exact ⟨levels, name, hm, hne, by rw [← hh]⟩
      · exact ih hg

lemma content_eq_append (a : Assembly) (levels : Nat) (name : String) :
    ∃ (ls : List Leaf) (gs : List Group),
      a.content levels name = ls.map .leaf ++ gs.map Group.toNode := by
  obtain ⟨ls, hl⟩ : ∃ ls : List Leaf, a.leafNodes name = ls.map .leaf :=
    ⟨_, (List.map_map (g := Node.leaf)).symm⟩
  cases levels with
  | zero => exact ⟨ls, [], by rw [content, hl, List.map_nil, List.append_nil]⟩
  | succ k =>
    refine ⟨ls, ((a.childrenOf name).filter fun child => !(a.content k child).isEmpty).map
      fun child => ⟨a.heading child (some name), a.content k child⟩, ?_⟩
    rw [content, hl, List.map_map]
    rfl

lemma Sound.isSorted (hs : a.Sound) (head : Heading) (hne : a.content levels name ≠ []) :
    Group.IsSorted ⟨head, a.content levels name⟩ := by
  have hn := hs.nodup_label levels name
  obtain ⟨ls, gs, he⟩ := content_eq_append a levels name
  have hleaves : (ls.map Node.leaf ++ gs.map Group.toNode).filterMap Node.leaf? = ls := by
    simp [Function.comp_def, Node.leaf?, Group.toNode]
  have hgroups : (ls.map Node.leaf ++ gs.map Group.toNode).filterMap Node.group? = gs := by
    simp [Function.comp_def, Node.group?, Group.toNode]
  refine ⟨hne, ?_, ?_⟩
  · rw [he, hleaves, hgroups]
  · rw [he, hleaves]
    rw [he, List.map_append, List.map_map] at hn
    apply List.Nodup.of_map fun p : String × Operator => (.inl ⟨name, p.1, p.2⟩ : LeafKey ⊕ String)
    rw [List.map_map]
    exact (List.nodup_append.mp hn).1

end Assembly

section

variable {cs : List Capture}

lemma Leaf.segments_ne_nil {l : Leaf}
    (h : ∃ s ∈ Text.pieces '.' l.path, Text.isBlankString s = false) : l.segments ≠ [] := by
  obtain ⟨s, hs, hb⟩ := h
  apply List.ne_nil_of_mem
  refine List.mem_filter.mpr ⟨hs, ?_⟩
  rw [bne_iff_ne]
  rintro rfl
  cases hb

lemma Capture.isWellFormed_leafOf (hc : ∀ c ∈ cs, c.IsUsable) {k : LeafKey}
    (hk : k ∈ leafKeys cs) : (leafOf cs k).IsWellFormed k.group := by
  obtain ⟨c, hm, rfl⟩ := mem_leafKeys.mp hk
  obtain ⟨-, hop, hv, hs⟩ := hc _ hm
  refine ⟨rfl, rfl, hop, ?_, (valuesOf cs c.key).nodup, Leaf.segments_ne_nil hs⟩
  obtain ⟨v, vs, he⟩ := List.exists_cons_of_ne_nil hv
  apply List.ne_nil_of_mem (a := v)
  exact mem_valuesOf.mpr ⟨c, hm, rfl, by simp [he]⟩

namespace Assembly.Holds

variable {a : Assembly}

lemma isWellFormed_leaf (h : a.Holds cs) (hc : ∀ c ∈ cs, c.IsUsable) {levels : Nat} {name : String}
    {l : Leaf} (hl : .leaf l ∈ a.content levels name) : l.IsWellFormed name := by
  obtain ⟨k, hk, rfl, rfl⟩ := h.leaf_mem_leafNodes.mp (leaf_mem_content.mp hl)
  exact Capture.isWellFormed_leafOf hc hk

lemma isWellFormed (h : a.Holds cs) (hs : a.Sound) (hc : ∀ c ∈ cs, c.IsUsable)
    (hne : a.content maxGroupDepth rootName ≠ []) :
    Group.IsWellFormed ⟨a.heading rootName none, a.content maxGroupDepth rootName⟩ := by
  -- each group is the content of its name, so many levels deep
  have hgroup : ∀ g ∈ Node.groups (.group (a.heading rootName none)
      (a.content maxGroupDepth rootName)), ∃ k, a.content k g.name ≠ [] ∧
        g.children = a.content k g.name := by
    intro g hg
    rcases List.mem_cons.mp hg with rfl | hg
    · exact ⟨maxGroupDepth, hne, rfl⟩
    · obtain ⟨k, parent, -, hk, he⟩ := mem_groupsIn_content hg
      exact ⟨k, hk, congrArg Group.children he⟩
  refine ⟨rfl, rfl, depthIn_content, List.nodup_cons.mpr ⟨?_, ?_⟩, ?_, ?_, ?_⟩
  · intro hm
    obtain ⟨g, hg, (hname : g.name = rootName)⟩ := List.mem_map.mp hm
    obtain ⟨-, parent, hp, -, -⟩ := mem_groupsIn_content hg
    rw [hname, ← hs.parent_iff, hs.root] at hp
    cases hp
  · apply List.Nodup.of_map fun n => (.inr n : LeafKey ⊕ String)
    rw [List.map_map]
    exact (hs.nodup_placedIn (d := 0) rfl).sublist (Node.sublist_groupsIn _ _)
  · intro g hg
    obtain ⟨k, hk, he⟩ := hgroup g hg
    have := hs.isSorted g.toHeading hk
    rwa [← he] at this
  · intro g hg l hl
    obtain ⟨k, -, he⟩ := hgroup g hg
    exact h.isWellFormed_leaf hc (he ▸ hl)
  · intro g hg k hk
    obtain ⟨j, -, he⟩ := hgroup g hg
    rw [he] at hk
    obtain ⟨i, -, -, -, hh, -⟩ := group_mem_content.mp hk
    exact congrArg Heading.groupName hh

end Assembly.Holds

lemma assemble_wellFormed (hc : ∀ c ∈ cs, c.IsUsable) :
    (∃ g c d, assemble cs = .error (.conjunctionConflict g c d)) ∨
      ∃ t, assemble cs = .ok t ∧ ∀ g ∈ t, g.IsWellFormed := by
  rcases Assembly.ofCaptures_cases cs with ⟨g, c, d, h⟩ | ha
  · exact .inl ⟨g, c, d, by rw [assemble, h]; rfl⟩
  · obtain ⟨a, hh, hs, ht⟩ := assemble_eq (fun c hm => (hc c hm).isNamed) ha
    refine .inr ⟨_, ht, fun g hg => ?_⟩
    rw [Assembly.group?] at hg
    split at hg
    · cases hg
    · next hne =>
      cases hg
      exact hh.isWellFormed hs hc (by simpa using hne)

end

lemma Registry.mem_supported_standard {o : Operator} (h : o ≠ .none) :
    o ∈ Registry.standard.supported := by
  cases o with
  | none => exact absurd rfl h
  | _ => decide

lemma Group.IsWellFormed.compile {t : Group} (h : t.IsWellFormed) :
    ∃ e, compileFilter .standard (some t) = .ok e := by
  have hleaves : ∀ l ∈ t.toNode.leaves, l.operator ∈ Registry.standard.supported := by
    intro l hl
    rcases Node.mem_leaves_cases hl with he | ⟨g, hg, hc⟩
    · cases he
    · exact Registry.mem_supported_standard (h.leaf g hg l hc).operator
  obtain ⟨e, he, -⟩ := t.toNode.compile_ok .standard hleaves
  exact ⟨e, he⟩

lemma FilterParser.isUsable_of_mem_captures (p : FilterParser) {raw : String} :
    ∀ c ∈ p.captures raw, c.IsUsable := by
  intro c hm
  obtain ⟨m, -, h⟩ := List.mem_filterMap.mp hm
  exact Capture.isUsable_of_ofMatch? h

/-- A query is in conflict with itself or has a well-formed tree, and what is parsed compiles. -/
theorem FilterParser.parse_wellFormed (p : FilterParser) (raw : String) :
    (∃ g c d, p.parse raw = .error (.conjunctionConflict g c d)) ∨
      ∃ t, p.parse raw = .ok t ∧ (∀ root ∈ t, root.IsWellFormed) ∧
        ∃ e, compileFilter .standard t = .ok e := by
  refine (assemble_wellFormed p.isUsable_of_mem_captures).imp_right ?_
  rintro ⟨t, ht, hw⟩
  refine ⟨t, ht, hw, ?_⟩
  cases t with
  | none => exact ⟨_, rfl⟩
  | some root => exact (hw root rfl).compile

end BracketQuery
