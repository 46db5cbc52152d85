import BracketQuery.Proofs.Filter.PairOrder

/-! Two queries that have no group in common but the root: the pairs of both together hold of what
each of them holds of. -/

namespace BracketQuery

namespace Capture

def groupNames : Capture → List String
  | declaration d => d.name :: d.parent.toList
  | clause c => c.parent.toList

/-- The pairs mention a group other than the root: they declare it, or put something into it. -/
def Mention (cs : List Capture) (g : String) : Prop := g ∈ cs.flatMap groupNames ∧ g ≠ rootName

/-- Pairs that have no group in common but the root, and no condition in it. -/
structure Apart (cs ds : List Capture) : Prop where
  groups : ∀ g, Mention cs g → ¬ Mention ds g
  keys : ∀ k ∈ leafKeys cs, k.group = rootName → k ∉ leafKeys ds

instance (cs ds : List Capture) : Decidable (Apart cs ds) :=
  decidable_of_iff
    ((∀ g ∈ cs.flatMap groupNames, g ≠ rootName → g ∉ ds.flatMap groupNames) ∧
      ∀ k ∈ leafKeys cs, k.group = rootName → k ∉ leafKeys ds)
    ⟨fun h => ⟨fun g hc hd => h.1 g hc.1 hc.2 hd.1, h.2⟩,
      fun h => ⟨fun g hc hr hd => h.groups g ⟨hc, hr⟩ ⟨hd, hr⟩, h.keys⟩⟩

variable {cs ds : List Capture}

lemma mention_getD {c : Capture} {p : Option String} (hc : c ∈ cs) (hp : p.toList ⊆ c.groupNames)
    (hr : p.getD rootName ≠ rootName) : Mention cs (p.getD rootName) := by
  cases p with
  | none => exact absurd rfl hr
  | some g => exact ⟨List.mem_flatMap.mpr ⟨c, hc, hp List.mem_cons_self⟩, hr⟩

lemma mention_leafKey {k : LeafKey} (h : k ∈ leafKeys cs) (hr : k.group ≠ rootName) :
    Mention cs k.group := by
  obtain ⟨c, hc, rfl⟩ := mem_leafKeys.mp h
  exact mention_getD hc (List.Subset.refl _) hr

lemma mention_name {d : Declaration} (h : d ∈ cs.filterMap declaration?) (hr : d.name ≠ rootName) :
    Mention cs d.name :=
  ⟨List.mem_flatMap.mpr ⟨_, mem_filterMap_declaration?.mp h, List.mem_cons_self⟩, hr⟩

lemma mention_parentName {d : Declaration} (h : d ∈ cs.filterMap declaration?)
    (hr : d.parentName ≠ rootName) : Mention cs d.parentName :=
  mention_getD (mem_filterMap_declaration?.mp h) (List.subset_cons_self _ _) hr

lemma mention_conjunction? {p : String × Conjunction} (h : p ∈ cs.filterMap conjunction?)
    (hr : p.1 ≠ rootName) : Mention cs p.1 := by
  obtain ⟨c, hc, hp⟩ := List.mem_filterMap.mp h
  cases c with
  | declaration d =>
    obtain ⟨k, -, rfl⟩ := Option.map_eq_some_iff.mp hp
    exact mention_name (mem_filterMap_declaration?.mpr hc) hr
  | clause c =>
    obtain ⟨k, -, rfl⟩ := Option.map_eq_some_iff.mp hp
    exact mention_getD hc (List.Subset.refl _) hr

namespace Apart

lemma symm (h : Apart cs ds) : Apart ds cs where
  groups g hd hc := h.groups g hc hd
  keys k hd hr hc := h.keys k hc hr hd

lemma not_mem_leafKeys (h : Apart cs ds) {k : LeafKey} (hc : k ∈ leafKeys cs) :
    k ∉ leafKeys ds := by
  intro hd
  have hr : k.group ≠ rootName := fun he => h.keys k hc he hd
  exact h.groups _ (mention_leafKey hc hr) (mention_leafKey hd hr)

lemma agree (h : Apart cs ds) (hc : Agree cs) (hd : Agree ds)
    (ho : (rootName, .or) ∉ (cs ++ ds).filterMap conjunction?) : Agree (cs ++ ds) := by
  rw [List.filterMap_append, List.mem_append] at ho
  have root {p : String × Conjunction}
      (hp : p ∈ cs.filterMap conjunction? ∨ p ∈ ds.filterMap conjunction?)
      (hr : p.1 = rootName) : p.2 = .and := by
    obtain ⟨g, k⟩ := p
    obtain rfl : g = rootName := hr
    cases k with
    | and => rfl
    | or => exact absurd hp ho
  -- both queries may only give the root a conjunction, and neither makes it a choice
  have cross {p q : String × Conjunction} (hp : p ∈ cs.filterMap conjunction?)
      (hq : q ∈ ds.filterMap conjunction?) (he : p.1 = q.1) : p.2 = q.2 := by
    have hr : p.1 = rootName := by
      by_contra hr
      exact h.groups _ (mention_conjunction? hp hr) (he ▸ mention_conjunction? hq (he ▸ hr))
    rw [root (.inl hp) hr, root (.inr hq) (he ▸ hr)]
  intro p hp q hq he
  rw [List.filterMap_append, List.mem_append] at hp hq
  rcases hp with hp | hp
  · rcases hq with hq | hq
    · exact hc p hp q hq he
    · exact cross hp hq he
  · rcases hq with hq | hq
    · exact (cross hq hp he.symm).symm
    · exact hd p hp q hq he

lemma lookup_eq_none (h : Apart cs ds) {g : String} (hg : Mention cs g) :
    (ds.filterMap conjunction?).lookup g = none := by
  rw [List.lookup_eq_none_iff]
  intro p hp
  rw [bne_iff_ne]
  rintro rfl
  exact h.groups _ hg (mention_conjunction? hp hg.2)

lemma conjunctionOf_left (h : Apart cs ds) {g : String} (hg : Mention cs g) :
    conjunctionOf (cs ++ ds) g = conjunctionOf cs g := by
  rw [conjunctionOf, conjunctionOf, List.filterMap_append, List.lookup_append,
    h.lookup_eq_none hg, Option.or_none]

lemma conjunctionOf_right (h : Apart cs ds) {g : String} (hg : Mention ds g) :
    conjunctionOf (cs ++ ds) g = conjunctionOf ds g := by
  rw [conjunctionOf, conjunctionOf, List.filterMap_append, List.lookup_append,
    h.symm.lookup_eq_none hg, Option.none_or]

end Apart

lemma conjunctionOf_root (ho : (rootName, .or) ∉ cs.filterMap conjunction?) :
    conjunctionOf cs rootName = .and := by
  rw [conjunctionOf]
  cases hl : (cs.filterMap conjunction?).lookup rootName with
  | none => rfl
  | some k =>
    cases k with
    | and => rfl
    | or => exact absurd (mem_of_lookup hl) ho

lemma clauses_eq_nil {k : LeafKey} (h : k ∉ leafKeys cs) :
    (cs.filterMap clause?).filter (fun c => c.key = k) = [] := by
  rw [List.filter_eq_nil_iff]
  intro c hc he
  exact h (List.mem_map.mpr ⟨c, hc, by simpa using he⟩)

lemma valuesOf_append_left {k : LeafKey} (h : k ∉ leafKeys ds) :
    valuesOf (cs ++ ds) k = valuesOf cs k := by
  rw [valuesOf, valuesOf, List.filterMap_append, List.filter_append, clauses_eq_nil h,
    List.append_nil]

lemma valuesOf_append_right {k : LeafKey} (h : k ∉ leafKeys cs) :
    valuesOf (cs ++ ds) k = valuesOf ds k := by
  rw [valuesOf, valuesOf, List.filterMap_append, List.filter_append, clauses_eq_nil h,
    List.nil_append]

end Capture

namespace Assembly

lemma collectParents_known {known more : List (String × String)} {ds : List Declaration}
    (h : ∀ d ∈ ds, d.name ≠ rootName → known.lookup d.name = none) :
    collectParents (known ++ more) ds = known ++ collectParents more ds := by
  induction ds generalizing more with
  | nil => rfl
  | cons d ds ih =>
    have hd := h d List.mem_cons_self
    have hds := fun e he => h e (List.mem_cons_of_mem d he)
    rw [collectParents, collectParents]
    by_cases hr : d.name = rootName
    · simp [hr, ih hds]
    · simp only [List.lookup_append, hd hr, Option.none_or]
      split
      · exact ih hds
      · rw [List.append_assoc, ih hds]

variable {cs ds : List Capture} {a b c : Assembly} {g child : String}

structure Coincide (a b : Assembly) (gs : String → Prop) : Prop where
  leafNodes : ∀ g, gs g → a.leafNodes g = b.leafNodes g
  childrenOf : ∀ g, gs g → a.childrenOf g = b.childrenOf g
  heading : ∀ g parent, gs g → a.heading g parent = b.heading g parent
  inner : ∀ g child, child ∈ b.childrenOf g → gs child

namespace Coincide

variable {gs : String → Prop} (h : a.Coincide b gs)

include h

lemma content_eq (levels : Nat) (hg : gs g) : a.content levels g = b.content levels g := by
  induction levels generalizing g with
  | zero => exact h.leafNodes g hg
  | succ levels ih =>
    rw [content, content, h.leafNodes g hg, h.childrenOf g hg]
    congr 1
    have hfilter : (b.childrenOf g).filter (fun child => !(a.content levels child).isEmpty) =
        (b.childrenOf g).filter fun child => !(b.content levels child).isEmpty :=
      List.filter_congr fun child hm => by rw [ih (h.inner g child hm)]
    rw [hfilter]
    apply List.map_congr_left
    intro child hm
    have hchild := h.inner g child (List.mem_filter.mp hm).1
    rw [h.heading child _ hchild, ih hchild]

lemma exists_child_iff {levels : Nat} {n : Node} :
    (∃ k child, levels = k + 1 ∧ child ∈ b.childrenOf g ∧ a.content k child ≠ [] ∧
      n = .group (a.heading child (some g)) (a.content k child)) ↔
    ∃ k child, levels = k + 1 ∧ child ∈ b.childrenOf g ∧ b.content k child ≠ [] ∧
      n = .group (b.heading child (some g)) (b.content k child) := by
  refine exists_congr fun k => exists_congr fun child => and_congr_right fun _ =>
    and_congr_right fun hm => ?_
  have hchild := h.inner g child hm
  rw [h.content_eq k hchild, h.heading child _ hchild]

end Coincide

lemma Holds.exists_declaration (h : a.Holds cs) (hc : child ∈ a.childrenOf g) :
    ∃ d ∈ cs.filterMap Capture.declaration?,
      d.name ≠ rootName ∧ d.name = child ∧ d.parentName = g := by
  rw [mem_childrenOf, h.parents] at hc
  obtain ⟨d, hd, hr, he⟩ := (mem_collectParents hc).resolve_left List.not_mem_nil
  obtain ⟨rfl, rfl⟩ := Prod.mk.inj he
  exact ⟨d, hd, hr, rfl, rfl⟩

lemma Holds.mention_child (h : a.Holds cs) (hc : child ∈ a.childrenOf g) :
    Capture.Mention cs child := by
  obtain ⟨d, hd, hr, rfl, -⟩ := h.exists_declaration hc
  exact Capture.mention_name hd hr

lemma Holds.eq_nil_of_not_mention (h : a.Holds cs) (hg : ¬ Capture.Mention cs g)
    (hr : g ≠ rootName) : a.leafNodes g = [] ∧ a.childrenOf g = [] := by
  constructor
  · rw [List.eq_nil_iff_forall_not_mem]
    intro n hn
    obtain ⟨l, hl, rfl, -⟩ := mem_leafNodes.mp hn
    obtain ⟨k, hk, rfl⟩ := h.mem_leaves.mp hl
    exact hg (Capture.mention_leafKey hk hr)
  · rw [List.eq_nil_iff_forall_not_mem]
    intro child hc
    obtain ⟨d, hd, -, -, rfl⟩ := h.exists_declaration hc
    exact hg (Capture.mention_parentName hd hr)

section

variable (ha : a.Holds (cs ++ ds)) (hb : b.Holds cs) (hc : c.Holds ds) (h : Capture.Apart cs ds)

include ha hb hc h

lemma Holds.leafNodes_append (g : String) : a.leafNodes g = b.leafNodes g ++ c.leafNodes g := by
  have hkeys : Capture.leafKeys (cs ++ ds) = Capture.leafKeys cs ++ Capture.leafKeys ds := by
    rw [Capture.leafKeys, List.filterMap_append, List.map_append]
    rfl
  have hleaves : a.leaves = b.leaves ++ c.leaves := by
    rw [ha.leaves, hb.leaves, hc.leaves, hkeys,
      distinctItems_append fun k hk => h.not_mem_leafKeys hk, List.map_append]
    congr 1
    · apply List.map_congr_left
      intro k hk
      rw [Capture.valuesOf_append_left (h.not_mem_leafKeys (mem_distinctItems.mp hk))]
    · apply List.map_congr_left
      intro k hk
      rw [Capture.valuesOf_append_right (h.symm.not_mem_leafKeys (mem_distinctItems.mp hk))]
  rw [leafNodes, hleaves, List.filter_append, List.map_append]
  rfl

lemma Holds.childrenOf_append (g : String) :
    a.childrenOf g = b.childrenOf g ++ c.childrenOf g := by
  have hknown : ∀ d ∈ ds.filterMap Capture.declaration?, d.name ≠ rootName →
      b.parents.lookup d.name = none := by
    intro d hd hr
    rw [List.lookup_eq_none_iff]
    intro p hp
    rw [bne_iff_ne]
    rintro hne
    have hchild : p.1 ∈ b.childrenOf p.2 := mem_childrenOf.mpr hp
    have hm := hb.mention_child hchild
    exact h.groups _ hm (hne ▸ Capture.mention_name hd hr)
  have hparents : a.parents = b.parents ++ c.parents := by
    rw [ha.parents, List.filterMap_append, collectParents_append, ← hb.parents, hc.parents,
      ← collectParents_known hknown, List.append_nil]
  rw [childrenOf, hparents, List.filterMap_append]
  rfl

lemma Holds.coincide_left : a.Coincide b (Capture.Mention cs) := by
  have hnone {g : String} (hg : Capture.Mention cs g) :=
    hc.eq_nil_of_not_mention (h.groups g hg) hg.2
  refine ⟨?_, ?_, ?_, fun g child hm => hb.mention_child hm⟩
  · intro g hg
    rw [ha.leafNodes_append hb hc h, (hnone hg).1, List.append_nil]
  · intro g hg
    rw [ha.childrenOf_append hb hc h, (hnone hg).2, List.append_nil]
  · intro g parent hg
    rw [ha.heading_eq, hb.heading_eq, h.conjunctionOf_left hg]

lemma Holds.coincide_right : a.Coincide c (Capture.Mention ds) := by
  have hnone {g : String} (hg : Capture.Mention ds g) :=
    hb.eq_nil_of_not_mention (h.symm.groups g hg) hg.2
  refine ⟨?_, ?_, ?_, fun g child hm => hc.mention_child hm⟩
  · intro g hg
    rw [ha.leafNodes_append hb hc h, (hnone hg).1, List.nil_append]
  · intro g hg
    rw [ha.childrenOf_append hb hc h, (hnone hg).2, List.nil_append]
  · intro g parent hg
    rw [ha.heading_eq, hc.heading_eq, h.conjunctionOf_right hg]

lemma Holds.mem_content_root {levels : Nat} {n : Node} : n ∈ a.content levels rootName ↔
    n ∈ b.content levels rootName ∨ n ∈ c.content levels rootName := by
  rw [mem_content, mem_content, mem_content, ← (ha.coincide_left hb hc h).exists_child_iff,
    ← (ha.coincide_right hb hc h).exists_child_iff, ha.leafNodes_append hb hc h,
    ha.childrenOf_append hb hc h, or_or_or_comm, List.mem_append]
  simp only [List.mem_append, or_and_right, and_or_left, exists_or]

end

lemma exists_holds_content (hn : ∀ c ∈ cs, c.IsNamed)
    (ho : ∀ c ∈ cs.filterMap Capture.clause?, c.operator ≠ .none) (ha : Capture.Agree cs)
    (hr : (rootName, .or) ∉ cs.filterMap Capture.conjunction?) :
    ∃ (a : Assembly) (s : Option Group) (e : Expression), a.Holds cs ∧ assemble cs = .ok s ∧
      compileFilter .standard s = .ok e ∧ ∀ entity,
        e.holds entity = (a.content maxGroupDepth rootName).all (Node.denote .standard entity) := by
  obtain ⟨a, hh, -, hs⟩ := assemble_eq hn ha
  obtain ⟨e, he, hd⟩ := hh.compile_root ho
  refine ⟨a, _, e, hh, hs, he, fun entity => ?_⟩
  rw [hd, hh.heading_eq, Capture.conjunctionOf_root hr, Node.denote, Node.denoteAll_eq_all]
  -- the root without content holds of everything
  cases a.content maxGroupDepth rootName <;> rfl

end Assembly

/-- The pairs of two queries that have no group in common, and no condition in the root, hold of
what both queries hold of, if the root is a choice in neither. -/
theorem assemble_append {cs ds : List Capture} {s t : Option Group}
    (hn : ∀ c ∈ cs ++ ds, c.IsNamed)
    (ho : ∀ c ∈ (cs ++ ds).filterMap Capture.clause?, c.operator ≠ .none)
    (hs : assemble cs = .ok s) (ht : assemble ds = .ok t)
    (hr : (rootName, .or) ∉ (cs ++ ds).filterMap Capture.conjunction?) (h : Capture.Apart cs ds) :
    ∃ u e f b, assemble (cs ++ ds) = .ok u ∧ compileFilter .standard s = .ok e ∧
      compileFilter .standard t = .ok f ∧ compileFilter .standard u = .ok b ∧
      ∀ entity, b.holds entity = (e.holds entity && f.holds entity) := by
  have hac := Capture.agree_of_assemble hs
  have had := Capture.agree_of_assemble ht
  obtain ⟨a, u, b, hha, hu, hb, hdb⟩ :=
    Assembly.exists_holds_content hn ho (h.agree hac had hr) hr
  rw [List.forall_mem_append] at hn
  rw [List.filterMap_append, List.forall_mem_append] at ho
  rw [List.filterMap_append, List.mem_append, not_or] at hr
  obtain ⟨l, s', e, hhl, hs', he, hde⟩ := Assembly.exists_holds_content hn.1 ho.1 hac hr.1
  obtain ⟨r, t', f, hhr, ht', hf, hdf⟩ := Assembly.exists_holds_content hn.2 ho.2 had hr.2
  obtain rfl := Except.ok.inj (hs.symm.trans hs')
  obtain rfl := Except.ok.inj (ht.symm.trans ht')
  refine ⟨u, e, f, b, hu, he, hf, hb, fun entity => ?_⟩
  rw [hdb, hde, hdf, Bool.eq_iff_iff, Bool.and_eq_true]
  simp only [List.all_eq_true, hha.mem_content_root hhl hhr h, or_imp, forall_and]

def orchardPairs : List Capture :=
  [ .clause ⟨some "apple", none, "weight", .between, ["1", "2"]⟩,
    .declaration ⟨"apple", some "fruit", some .or⟩,
    .clause ⟨some "apple", none, "color", .equalTo, ["red"]⟩,
    .declaration ⟨"fruit", none, none⟩,
    .clause ⟨some "lost", none, "color", .equalTo, ["green"]⟩,
    .clause ⟨none, some .and, "ripe", .isNotNull, []⟩ ]

def cellarPairs : List Capture :=
  [ .declaration ⟨"cask", some "root", none⟩,
    .clause ⟨some "cask", some .or, "year", .lessThan, ["1990"]⟩,
    .clause ⟨some "root", none, "ripe", .isNull, []⟩,
    .clause ⟨some "cask", some .or, "color", .notIn, ["red", "white"]⟩,
    .declaration ⟨"crate", none, none⟩ ]

theorem assemble_append_orchardPairs_cellarPairs :
    (∀ c ∈ orchardPairs ++ cellarPairs, c.IsNamed) ∧
    (∀ c ∈ (orchardPairs ++ cellarPairs).filterMap Capture.clause?, c.operator ≠ .none) ∧
    (rootName, .or) ∉ (orchardPairs ++ cellarPairs).filterMap Capture.conjunction? ∧
    Capture.Apart orchardPairs cellarPairs ∧
    ∃ s t, assemble orchardPairs = .ok (some s) ∧ assemble cellarPairs = .ok (some t) ∧
      ∃ u e f b, assemble (orchardPairs ++ cellarPairs) = .ok u ∧
        compileFilter .standard (some s) = .ok e ∧ compileFilter .standard (some t) = .ok f ∧
        compileFilter .standard u = .ok b ∧
        ∀ entity, b.holds entity = (e.holds entity && f.holds entity) := by
  have hn : ∀ c ∈ orchardPairs ++ cellarPairs, c.IsNamed := by decide
  have ho : ∀ c ∈ (orchardPairs ++ cellarPairs).filterMap Capture.clause?,
      c.operator ≠ .none := by decide
  have hr : (rootName, .or) ∉
      (orchardPairs ++ cellarPairs).filterMap Capture.conjunction? := by decide
  have h : Capture.Apart orchardPairs cellarPairs := by decide
  exact ⟨hn, ho, hr, h, _, _, rfl, rfl, assemble_append hn ho rfl rfl hr h⟩

end BracketQuery
