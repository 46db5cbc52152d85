import BracketQuery.Proofs.Assembly.Build
import BracketQuery.Proofs.Filter.Captured
import BracketQuery.Proofs.Filter.Groups

/-! What is captured from a written tree is put together to the same tree. -/

namespace BracketQuery

def Node.captures (delimiter : Char) (packed : Bool) (owner : Heading) : Node → List Capture
  | .leaf l => (l.clauses delimiter packed owner).map .clause
  | .group k _ => [.declaration (k.declaration owner)]

def Group.captures (delimiter : Char) (packed : Bool) (t : Group) : List Capture :=
  t.toNode.groups.flatMap fun g => g.children.flatMap fun n =>
    n.captures delimiter packed g.toHeading

def Leaf.key (owner : String) (l : Leaf) : LeafKey := ⟨owner, l.path, l.operator⟩

section

variable {d : Char} {packed : Bool} {owner : Heading} {l : Leaf} {t g : Group}

lemma memberName_getD (owner : String) : (memberName owner).getD rootName = owner := by
  unfold memberName
  split
  · next h => exact h.symm
  · rfl

lemma Heading.parentName_declaration (h owner : Heading) :
    (h.declaration owner).parentName = owner.name := memberName_getD owner.name

lemma Leaf.key_of_mem_clauses {c : Clause} (h : c ∈ l.clauses d packed owner) :
    c.key = l.key owner.name := by
  obtain ⟨v, -, rfl⟩ := List.mem_map.mp h
  simp [Clause.key, Leaf.key, memberName_getD]

lemma filterMap_declaration (cs : List Node) :
    (cs.flatMap fun n => n.captures d packed owner).filterMap Capture.declaration? =
      (cs.filterMap Node.group?).map fun k => k.declaration owner := by
  induction cs with
  | nil => rfl
  | cons c cs ih =>
    rw [List.flatMap_cons, List.filterMap_append, ih]
    cases c with
    | leaf l =>
      have hnone : ((l.clauses d packed owner).map Capture.clause).filterMap Capture.declaration? =
          [] := by
        rw [List.filterMap_map, List.filterMap_eq_nil_iff]
        exact fun c _ => rfl
      rw [Node.captures, hnone]
      rfl
    | group k ds => rfl

lemma filterMap_clause (cs : List Node) :
    (cs.flatMap fun n => n.captures d packed owner).filterMap Capture.clause? =
      (cs.filterMap Node.leaf?).flatMap fun l => l.clauses d packed owner := by
  induction cs with
  | nil => rfl
  | cons c cs ih =>
    rw [List.flatMap_cons, List.filterMap_append, ih]
    cases c with
    | leaf l =>
      have hself : ((l.clauses d packed owner).map Capture.clause).filterMap Capture.clause? =
          l.clauses d packed owner := by
        rw [List.filterMap_map]
        exact List.filterMap_some
      simp [Node.captures, Node.leaf?, hself]
    | group k ds => rfl

lemma Group.declarations_eq (t : Group) :
    (t.captures d packed).filterMap Capture.declaration? = t.toNode.groups.flatMap fun g =>
      (g.children.filterMap Node.group?).map fun k => k.declaration g.toHeading := by
  rw [Group.captures, List.filterMap_flatMap]
  simp only [filterMap_declaration]

lemma Group.clauses_eq (t : Group) :
    (t.captures d packed).filterMap Capture.clause? = t.toNode.groups.flatMap fun g =>
      (g.children.filterMap Node.leaf?).flatMap fun l => l.clauses d packed g.toHeading := by
  rw [Group.captures, List.filterMap_flatMap]
  simp only [filterMap_clause]

end

namespace Group.IsWritable

variable {o : Options} {packed : Bool} {t g k : Group} {l : Leaf}

lemma eq_of_name (ht : t.IsWritable o) (hg : g ∈ t.toNode.groups) (hk : k ∈ t.toNode.groups)
    (h : g.name = k.name) : g = k :=
  List.inj_on_of_nodup_map ht.names hg hk h

lemma child_mem (hg : g ∈ t.toNode.groups) (hk : k ∈ g.children.filterMap Node.group?) :
    k ∈ t.toNode.groups :=
  Node.mem_groups_of_child hg (Node.mem_filterMap_group?.mp hk)

lemma parent (ht : t.IsWritable o) (hg : g ∈ t.toNode.groups) (h : g.name ≠ rootName) :
    ∃ k ∈ t.toNode.groups, g ∈ k.children.filterMap Node.group? := by
  rcases Node.mem_groups_cases hg with he | ⟨k, hk, hc⟩
  · refine absurd ?_ h
    rw [← ht.name]
    exact congrArg Node.name he
  · exact ⟨k, hk, Node.mem_filterMap_group?.mpr hc⟩

lemma leaf_mem (ht : t.IsWritable o) (hg : g ∈ t.toNode.groups) (hl : .leaf l ∈ g.children) :
    l.IsWritable o.valueDelimiter g.name :=
  ht.leaf g hg l (Node.mem_filterMap_leaf?.mpr hl)

lemma heading_mem (ht : t.IsWritable o) (hg : g ∈ t.toNode.groups) {h : Heading} {cs : List Node}
    (hk : .group h cs ∈ g.children) : h.IsWritable o.groupKeyword g.name :=
  ht.heading g hg ⟨h, cs⟩ (Node.mem_filterMap_group?.mpr hk)

lemma isNameable (ht : t.IsWritable o) (hg : g ∈ t.toNode.groups) :
    g.toHeading.IsNameable o.groupKeyword := by
  intro h
  obtain ⟨k, hk, hc⟩ := ht.parent hg h
  exact ⟨k.name, ht.heading k hk g hc⟩

lemma child_ne (hk : k ∈ g.children.filterMap Node.group?) : k ≠ g := by
  rintro rfl
  have h := Node.depth_le_depthIn (Node.mem_filterMap_group?.mp hk)
  rw [Node.depth_toNode] at h
  omega

lemma childNames_spec (ht : t.IsWritable o) :
    (t.toNode.groups.flatMap fun g => Node.childNames g.children).Nodup ∧
      rootName ∉ t.toNode.groups.flatMap fun g => Node.childNames g.children := by
  have hn := ht.names
  rw [Group.toNode, Node.groups, List.map_cons, List.nodup_cons] at hn
  have hp := Node.perm_groupsIn t.children
  rw [Group.toNode, Node.groups, List.flatMap_cons]
  refine ⟨hp.nodup_iff.mp hn.2, fun h => hn.1 ?_⟩
  rw [ht.name]
  exact hp.mem_iff.mpr h

lemma conjunction_of_mem {d : Char} {p : String × Conjunction}
    (hp : p ∈ (t.captures d packed).filterMap Capture.conjunction?) :
    ∃ g ∈ t.toNode.groups, p = (g.name, g.conjunction) := by
  obtain ⟨c, hc, hcp⟩ := List.mem_filterMap.mp hp
  obtain ⟨g, hg, hc⟩ := List.mem_flatMap.mp hc
  obtain ⟨n, hn, hc⟩ := List.mem_flatMap.mp hc
  cases n with
  | leaf l =>
    obtain ⟨e, he, rfl⟩ := List.mem_map.mp hc
    obtain ⟨v, -, rfl⟩ := List.mem_map.mp he
    by_cases hr : g.name = rootName
    · refine ⟨g, hg, ?_⟩
      simpa [Capture.conjunction?, hr, memberName] using hcp.symm
    · simp [Capture.conjunction?, hr] at hcp
  | group k cs =>
    obtain rfl := List.mem_singleton.mp hc
    refine ⟨⟨k, cs⟩, child_mem hg (Node.mem_filterMap_group?.mpr hn), ?_⟩
    simpa [Capture.conjunction?, Heading.declaration] using hcp.symm

lemma agree {d : Char} (ht : t.IsWritable o) : Capture.Agree (t.captures d packed) := by
  intro p hp q hq he
  obtain ⟨g, hg, rfl⟩ := conjunction_of_mem hp
  obtain ⟨k, hk, rfl⟩ := conjunction_of_mem hq
  rw [ht.eq_of_name hg hk he]

lemma mem_conjunctions (ht : t.IsWritable o) (hg : g ∈ t.toNode.groups)
    (h : g.name = rootName → g.children.filterMap Node.leaf? ≠ []) :
    (g.name, g.conjunction) ∈
      (t.captures o.valueDelimiter packed).filterMap Capture.conjunction? := by
  rw [List.mem_filterMap]
  by_cases hr : g.name = rootName
  · obtain ⟨l, hl⟩ := List.exists_mem_of_ne_nil _ (h hr)
    obtain ⟨v, hv⟩ := List.exists_mem_of_ne_nil _ ((ht.leaf g hg l hl).texts_spec packed).1
    refine ⟨_, List.mem_flatMap.mpr ⟨g, hg, List.mem_flatMap.mpr
      ⟨.leaf l, Node.mem_filterMap_leaf?.mp hl, List.mem_map_of_mem (List.mem_map_of_mem hv)⟩⟩, ?_⟩
    simp [Capture.conjunction?, hr, memberName]
  · obtain ⟨k, hk, hc⟩ := ht.parent hg hr
    exact ⟨_, List.mem_flatMap.mpr ⟨k, hk, List.mem_flatMap.mpr
      ⟨g.toNode, Node.mem_filterMap_group?.mp hc, List.mem_singleton_self _⟩⟩, rfl⟩

lemma conjunctionOf_eq (ht : t.IsWritable o) (hg : g ∈ t.toNode.groups) :
    Capture.conjunctionOf (t.captures o.valueDelimiter packed) g.name = g.conjunction := by
  unfold Capture.conjunctionOf
  cases hl : ((t.captures o.valueDelimiter packed).filterMap Capture.conjunction?).lookup g.name with
  | some c =>
    obtain ⟨k, hk, hkc⟩ := conjunction_of_mem (mem_of_lookup hl)
    obtain ⟨hn, rfl⟩ := Prod.mk.inj hkc
    rw [ht.eq_of_name hg hk hn]
    rfl
  | none =>
    -- only a root without leaves is not told how to combine
    have hnot := List.lookup_eq_none_iff.mp hl
    by_cases hr : g.name = rootName
    · by_cases hleaf : g.children.filterMap Node.leaf? = []
      · obtain rfl := ht.eq_of_name hg (Node.mem_groups_toNode t) (hr.trans ht.name.symm)
        exact (ht.conjunction hleaf).symm
      · have := hnot _ (ht.mem_conjunctions hg fun _ => hleaf)
        simp at this
    · have := hnot _ (ht.mem_conjunctions hg fun h => absurd h hr)
      simp at this

lemma isNamed (packed : Bool) (ht : t.IsWritable o) :
    ∀ c ∈ t.captures o.valueDelimiter packed, c.IsNamed := by
  intro c hc
  obtain ⟨g, hg, hc⟩ := List.mem_flatMap.mp hc
  obtain ⟨n, hn, hc⟩ := List.mem_flatMap.mp hc
  have hmember : ∀ p ∈ memberName g.name, Text.isBlankString p = false := by
    intro p hp
    obtain ⟨rfl, _, hw⟩ := (ht.isNameable hg).member hp
    exact hw.not_blank
  cases n with
  | leaf l =>
    obtain ⟨e, he, rfl⟩ := List.mem_map.mp hc
    obtain ⟨v, -, rfl⟩ := List.mem_map.mp he
    exact ⟨(ht.leaf_mem hg hn).not_blank, hmember⟩
  | group k cs =>
    obtain rfl := List.mem_singleton.mp hc
    exact ⟨(ht.heading_mem hg hn).not_blank, hmember⟩

variable {a : Assembly} {levels : Nat}

lemma clauses_of_group (packed : Bool) (ht : t.IsWritable o) (hg : g ∈ t.toNode.groups) :
    ((t.captures o.valueDelimiter packed).filterMap Capture.clause?).filter
        (fun c => c.key.group = g.name) =
      (g.children.filterMap Node.leaf?).flatMap fun l =>
        l.clauses o.valueDelimiter packed g.toHeading := by
  rw [Group.clauses_eq]
  refine filter_flatMap_of_nodup ht.names ?_ hg
  intro k hk c hc
  obtain ⟨l, -, hl⟩ := List.mem_flatMap.mp hc
  rw [Leaf.key_of_mem_clauses hl]
  rfl

lemma nodup_keys (ht : t.IsWritable o) (hg : g ∈ t.toNode.groups) :
    ((g.children.filterMap Node.leaf?).map (Leaf.key g.name)).Nodup := by
  have hinj : Function.Injective fun p : String × Operator => LeafKey.mk g.name p.1 p.2 := by
    rintro ⟨p, q⟩ ⟨r, s⟩ h
    cases h
    rfl
  have h := (ht.sorted g hg).distinct.map hinj
  rw [List.map_map] at h
  exact h

lemma valuesOf_eq (ht : t.IsWritable o) (hg : g ∈ t.toNode.groups)
    (hl : l ∈ g.children.filterMap Node.leaf?) :
    Capture.valuesOf (t.captures o.valueDelimiter packed) (l.key g.name) = l.values := by
  have hw := ht.leaf g hg l hl
  have hown : ((t.captures o.valueDelimiter packed).filterMap Capture.clause?).filter
      (fun c => c.key = l.key g.name) = l.clauses o.valueDelimiter packed g.toHeading := by
    have hfilter := congrArg (List.filter fun c => c.key = l.key g.name)
      (ht.clauses_of_group packed hg)
    rw [List.filter_filter, filter_flatMap_of_nodup (ht.nodup_keys hg) _ hl] at hfilter
    · rw [← hfilter]
      apply List.filter_congr
      intro c _
      by_cases hk : c.key = l.key g.name
      · simp [hk, Leaf.key]
      · simp [hk]
    · exact fun k _ c hc => Leaf.key_of_mem_clauses hc
  have hvalues : (l.clauses o.valueDelimiter packed g.toHeading).flatMap Clause.values =
      l.values.toList := by
    rw [← (hw.texts_spec packed).2.2, Leaf.clauses, List.flatMap_map]
  rw [Capture.valuesOf, hown, hvalues, ValueSet.ofList_toList]

lemma leafNodes_eq (ht : t.IsWritable o) (ha : a.Holds (t.captures o.valueDelimiter packed))
    (hg : g ∈ t.toNode.groups) :
    a.leafNodes g.name = (g.children.filterMap Node.leaf?).map .leaf := by
  have hkeys : (Capture.leafKeys (t.captures o.valueDelimiter packed)).filter
      (fun k => k.group == g.name) = (g.children.filterMap Node.leaf?).flatMap fun l =>
        (l.texts o.valueDelimiter packed).map fun _ => l.key g.name := by
    have hmap := congrArg (List.map Clause.key) (ht.clauses_of_group packed hg)
    rw [List.map_flatMap] at hmap
    rw [Capture.leafKeys, List.filter_map]
    refine Eq.trans ?_ (hmap.trans ?_)
    · congr 1
    · apply List.flatMap_congr
      intro l hl
      rw [Leaf.clauses, List.map_map]
      apply List.map_congr_left
      intro v hv
      exact Leaf.key_of_mem_clauses (List.mem_map_of_mem hv)
  have hdistinct := distinctItems_flatMap (ht.nodup_keys hg) fun l hl =>
    ((ht.leaf g hg l hl).texts_spec packed).1
  rw [Assembly.leafNodes, ha.leaves, List.filter_map, List.map_map]
  have hcomp : (distinctItems (Capture.leafKeys (t.captures o.valueDelimiter packed))).filter
      ((fun l : LeafKey × ValueSet => l.1.group == g.name) ∘ fun k =>
        (k, Capture.valuesOf (t.captures o.valueDelimiter packed) k)) =
      (g.children.filterMap Node.leaf?).map (Leaf.key g.name) := by
    rw [← hdistinct, ← hkeys]
    exact filter_distinctItems _ _
  rw [hcomp, List.map_map]
  apply List.map_congr_left
  intro l hl
  have hw := ht.leaf g hg l hl
  obtain ⟨name, groupName, path, operator, values⟩ := l
  have hn : name = path := hw.name
  have hp : groupName = some g.name := hw.groupName
  simp only [Function.comp_apply, Assembly.leafNode, ht.valuesOf_eq hg hl]
  simp [Leaf.key, hn, hp]

lemma map_name_declarations {d : Char} :
    ((t.captures d packed).filterMap Capture.declaration?).map Declaration.name =
      t.toNode.groups.flatMap fun g => Node.childNames g.children := by
  rw [Group.declarations_eq, List.map_flatMap]
  apply List.flatMap_congr
  intro g _
  rw [List.map_map]
  rfl

lemma parents_eq (ht : t.IsWritable o) (ha : a.Holds (t.captures o.valueDelimiter packed)) :
    a.parents = t.toNode.groups.flatMap fun g =>
      (g.children.filterMap Node.group?).map fun k => (k.name, g.name) := by
  obtain ⟨hn, hr⟩ := ht.childNames_spec
  rw [← map_name_declarations (d := o.valueDelimiter)] at hn hr
  rw [ha.parents, Assembly.collectParents_of_nodup [] _ hn, List.nil_append,
    Group.declarations_eq, List.map_flatMap]
  · apply List.flatMap_congr
    intro g _
    rw [List.map_map]
    apply List.map_congr_left
    intro k _
    exact congrArg (Prod.mk k.name) (Heading.parentName_declaration _ _)
  · intro d hd
    refine ⟨fun he => hr (List.mem_map.mpr ⟨d, hd, he⟩), ?_⟩
    rw [Group.declarations_eq] at hd
    obtain ⟨g, hg, hd⟩ := List.mem_flatMap.mp hd
    obtain ⟨k, hk, rfl⟩ := List.mem_map.mp hd
    rw [Heading.parentName_declaration]
    exact fun he => child_ne hk (ht.eq_of_name (child_mem hg hk) hg he)

lemma childrenOf_eq (ht : t.IsWritable o) (ha : a.Holds (t.captures o.valueDelimiter packed))
    (hg : g ∈ t.toNode.groups) : a.childrenOf g.name = Node.childNames g.children := by
  have hfilter : a.parents.filter (fun p => p.2 = g.name) =
      (g.children.filterMap Node.group?).map fun k => (k.name, g.name) := by
    rw [ht.parents_eq ha]
    refine filter_flatMap_of_nodup ht.names ?_ hg
    intro k _ p hp
    obtain ⟨m, -, rfl⟩ := List.mem_map.mp hp
    rfl
  rw [Assembly.childrenOf_eq, hfilter, List.map_map]
  rfl

lemma heading_eq (ht : t.IsWritable o) (ha : a.Holds (t.captures o.valueDelimiter packed))
    (hg : g ∈ t.toNode.groups) : a.heading g.name g.groupName = g.toHeading := by
  rw [Assembly.heading, ha.conjunction, ht.conjunctionOf_eq hg]

lemma content_eq (ht : t.IsWritable o) (ha : a.Holds (t.captures o.valueDelimiter packed))
    (hg : g ∈ t.toNode.groups) (hd : Node.depthIn g.children ≤ levels) :
    a.content levels g.name = g.children := by
  induction levels generalizing g with
  | zero =>
    have hnone : g.children.filterMap Node.group? = [] := by
      rw [List.eq_nil_iff_forall_not_mem]
      intro k hk
      have h := Node.depth_le_depthIn (Node.mem_filterMap_group?.mp hk)
      rw [Node.depth_toNode] at h
      omega
    have horder := (ht.sorted g hg).order
    rw [hnone, List.map_nil, List.append_nil] at horder
    exact (ht.leafNodes_eq ha hg).trans horder.symm
  | succ levels ih =>
    -- the groups directly in this one need a level less, and none of them is empty
    have hchild : ∀ k ∈ g.children.filterMap Node.group?,
        a.content levels k.name = k.children ∧ k.children ≠ [] ∧
          a.heading k.name (some g.name) = k.toHeading := by
      intro k hk
      have hm := child_mem hg hk
      have h := Node.depth_le_depthIn (Node.mem_filterMap_group?.mp hk)
      rw [Node.depth_toNode] at h
      refine ⟨ih hm (by omega), (ht.sorted k hm).nonempty, ?_⟩
      rw [← (ht.heading g hg k hk).groupName]
      exact ht.heading_eq ha hm
    have hkeep : (Node.childNames g.children).filter
        (fun child => !(a.content levels child).isEmpty) = Node.childNames g.children := by
      refine List.filter_eq_self.mpr ?_
      intro c hc
      obtain ⟨k, hk, rfl⟩ := List.mem_map.mp hc
      obtain ⟨hcontent, hne, -⟩ := hchild k hk
      simp [hcontent, hne]
    have hgroups : (Node.childNames g.children).map (fun child =>
        Node.group (a.heading child (some g.name)) (a.content levels child)) =
        (g.children.filterMap Node.group?).map Group.toNode := by
      rw [Node.childNames, List.map_map]
      apply List.map_congr_left
      intro k hk
      obtain ⟨hcontent, -, hheading⟩ := hchild k hk
      rw [Function.comp_apply, hcontent, hheading]
      rfl
    rw [Assembly.content, ht.leafNodes_eq ha hg, ht.childrenOf_eq ha hg, hkeep, hgroups]
    exact (ht.sorted g hg).order.symm

theorem assemble_captures (ht : t.IsWritable o) :
    assemble (t.captures o.valueDelimiter packed) = .ok (some t) := by
  obtain ⟨a, ha, -, he⟩ := assemble_eq (ht.isNamed packed) ht.agree
  have hroot := Node.mem_groups_toNode t
  have hcontent := ht.content_eq ha hroot ht.depth
  have hheading := ht.heading_eq ha hroot
  rw [ht.name] at hcontent hheading
  rw [ht.groupName] at hheading
  have hne : t.children.isEmpty = false := List.isEmpty_eq_false_iff.mpr (ht.sorted t hroot).nonempty
  rw [he, hcontent, Assembly.group?, hne, hheading]
  rfl

end Group.IsWritable

end BracketQuery
