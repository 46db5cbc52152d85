import BracketQuery.Proofs.Expression.ValueOrder
import BracketQuery.Proofs.Filter.WellFormed

/-! The order of its pairs does not show in what a query holds of. -/

namespace BracketQuery

section

variable {α β : Type}

lemma lookup_perm [DecidableEq α] {xs ys : List (α × β)} (h : xs.Perm ys)
    (hf : ∀ p ∈ xs, ∀ q ∈ xs, p.1 = q.1 → p.2 = q.2) (k : α) : xs.lookup k = ys.lookup k := by
  cases hy : ys.lookup k with
  | none =>
    rw [List.lookup_eq_none_iff] at hy ⊢
    exact fun p hp => hy p (h.mem_iff.mp hp)
  | some w =>
    have hw := h.mem_iff.mpr (mem_of_lookup hy)
    cases hx : xs.lookup k with
    | none => simpa using List.lookup_eq_none_iff.mp hx (k, w) hw
    | some v => exact congrArg some (hf (k, v) (mem_of_lookup hx) (k, w) hw rfl)

lemma map_find?_perm {p : α → Bool} {f : α → β} {xs ys : List α} (h : xs.Perm ys)
    (hf : ∀ x ∈ xs, ∀ y ∈ xs, p x = true → p y = true → f x = f y) :
    (xs.find? p).map f = (ys.find? p).map f := by
  cases hx : xs.find? p with
  | none =>
    have hy : ys.find? p = none := by
      rw [List.find?_eq_none] at hx ⊢
      exact fun y hy => hx y (h.mem_iff.mpr hy)
    rw [hy]
  | some x =>
    have hm := List.mem_of_find?_eq_some hx
    cases hy : ys.find? p with
    | none => exact absurd (List.find?_some hx) (List.find?_eq_none.mp hy x (h.mem_iff.mp hm))
    | some y =>
      have hym := h.mem_iff.mpr (List.mem_of_find?_eq_some hy)
      exact congrArg some (hf x hm y hym (List.find?_some hx) (List.find?_some hy))

lemma ValueSet.perm_ofList {xs ys : List String} (h : xs.Perm ys) :
    (ofList xs).toList.Perm (ofList ys).toList := by
  rw [List.perm_ext_iff_of_nodup (ofList xs).nodup (ofList ys).nodup]
  intro x
  rw [mem_toList_ofList, mem_toList_ofList, h.mem_iff]

end

namespace Capture

/-- No group but the root has two parents; a group that names itself as its parent does not count. -/
def HaveOneParent (cs : List Capture) : Prop :=
  ∀ d ∈ cs.filterMap declaration?, ∀ e ∈ cs.filterMap declaration?, d.name = e.name →
    d.name ≠ rootName → d.parentName ≠ d.name → e.parentName ≠ e.name → d.parentName = e.parentName

instance (cs : List Capture) : Decidable (HaveOneParent cs) :=
  inferInstanceAs (Decidable (∀ d ∈ _, ∀ e ∈ _, _))

structure SaySame (cs ds : List Capture) : Prop where
  parent : parentOf? cs = parentOf? ds
  conjunction : conjunctionOf cs = conjunctionOf ds
  keys : ∀ k, k ∈ leafKeys cs ↔ k ∈ leafKeys ds
  values : ∀ k, (valuesOf cs k).toList.Perm (valuesOf ds k).toList

variable {cs ds : List Capture}

lemma SaySame.symm (h : SaySame cs ds) : SaySame ds cs :=
  ⟨h.parent.symm, h.conjunction.symm, fun k => (h.keys k).symm, fun k => (h.values k).symm⟩

lemma saySame_of_perm (h : cs.Perm ds) (ha : Agree cs) (hp : HaveOneParent cs) :
    SaySame cs ds where
  parent := by
    funext g
    unfold parentOf?
    split
    · rfl
    · next hg =>
      apply map_find?_perm (h.filterMap _)
      intro d hd e he hdg heg
      simp only [ne_eq, Bool.and_eq_true, decide_eq_true_eq] at hdg heg
      obtain ⟨rfl, hdp⟩ := hdg
      obtain ⟨hen, hep⟩ := heg
      exact hp d hd e he hen.symm hg hdp (hen.symm ▸ hep)
  conjunction := by
    funext g
    rw [conjunctionOf, conjunctionOf, lookup_perm (h.filterMap _) ha]
  keys k := ((h.filterMap _).map _).mem_iff
  values k := ValueSet.perm_ofList (((h.filterMap _).filter _).flatMap_right _)

end Capture

namespace Assembly

variable {cs ds : List Capture} {a b : Assembly} {levels : Nat} {name : String} {n : Node}

lemma Holds.content_ne_nil_congr (ha : a.Holds cs) (hb : b.Holds ds) (hsa : a.Sound)
    (hsb : b.Sound) (h : Capture.SaySame cs ds) :
    a.content levels name ≠ [] ↔ b.content levels name ≠ [] := by
  rw [ha.content_ne_nil hsa, hb.content_ne_nil hsb, h.parent]
  simp only [h.keys]

lemma Holds.exists_leaf (ha : a.Holds cs) (hb : b.Holds ds) (h : Capture.SaySame cs ds)
    (entity : Json.Value) {l : Leaf} (hl : .leaf l ∈ a.content levels name) :
    ∃ m ∈ b.content levels name,
      m.denote .standard entity = (Node.leaf l).denote .standard entity := by
  obtain ⟨key, hk, hg, rfl⟩ := ha.leaf_mem_leafNodes.mp (leaf_mem_content.mp hl)
  refine ⟨.leaf (Capture.leafOf ds key), ?_, ?_⟩
  · exact leaf_mem_content.mpr (hb.leaf_mem_leafNodes.mpr ⟨key, (h.keys key).mp hk, hg, rfl⟩)
  · exact Node.denote_leaf_of_perm (l := Capture.leafOf ds key) (m := Capture.leafOf cs key) rfl rfl
      (h.values key).symm entity

lemma Holds.exists_denote_eq (ha : a.Holds cs) (hb : b.Holds ds) (hsa : a.Sound) (hsb : b.Sound)
    (h : Capture.SaySame cs ds) (entity : Json.Value) (hn : n ∈ a.content levels name) :
    ∃ m ∈ b.content levels name, m.denote .standard entity = n.denote .standard entity := by
  induction levels generalizing a b cs ds name n with
  | zero =>
    cases n with
    | leaf l => exact ha.exists_leaf hb h entity hn
    | group head children =>
      obtain ⟨k, hk, -⟩ := group_mem_content.mp hn
      cases hk
  | succ k ih =>
    cases n with
    | leaf l => exact ha.exists_leaf hb h entity hn
    | group head children =>
      obtain ⟨j, hj, hm, hne, hhead, rfl⟩ := group_mem_content.mp hn
      obtain rfl : k = j := by omega
      have hne' := (ha.content_ne_nil_congr hb hsa hsb h).mp hne
      have hm' : head.name ∈ b.childrenOf name := by
        rw [← hsb.parent_iff, hb.parentOf?_eq, ← h.parent, ← ha.parentOf?_eq, hsa.parent_iff]
        exact hm
      have hconjunction : (b.heading head.name (some name)).conjunction = head.conjunction := by
        rw [hhead, ha.heading_eq, hb.heading_eq, h.conjunction]
      refine ⟨.group (b.heading head.name (some name)) (b.content k head.name), ?_, ?_⟩
      · exact group_mem_content.mpr ⟨k, rfl, hm', hne', rfl, rfl⟩
      -- the meaning of a group takes both directions, one level below
      · exact Node.denote_group hconjunction
          (fun x hx => ih hb ha hsb hsa h.symm hx) (fun y hy => ih ha hb hsa hsb h hy)

lemma Holds.leaf_of_mem_leavesIn (ha : a.Holds cs) {l : Leaf}
    (hl : l ∈ Node.leavesIn (a.content levels name)) :
    ∃ k ∈ Capture.leafKeys cs, l = Capture.leafOf cs k := by
  have direct {k : Nat} {g : String} (hm : .leaf l ∈ a.content k g) :
      ∃ k ∈ Capture.leafKeys cs, l = Capture.leafOf cs k := by
    obtain ⟨key, hk, -, rfl⟩ := ha.leaf_mem_leafNodes.mp (leaf_mem_content.mp hm)
    exact ⟨key, hk, rfl⟩
  rcases Node.mem_leavesIn_cases hl with hm | ⟨g, hg, hm⟩
  · exact direct hm
  · obtain ⟨k, parent, -, -, he⟩ := mem_groupsIn_content hg
    rw [he] at hm
    exact direct hm

lemma Holds.compile_root (ha : a.Holds cs)
    (ho : ∀ c ∈ cs.filterMap Capture.clause?, c.operator ≠ .none) :
    ∃ e, compileFilter .standard (a.group? rootName none (a.content levels rootName)) = .ok e ∧
      ∀ entity, e.holds entity = (Node.group (a.heading rootName none)
        (a.content levels rootName)).denote .standard entity := by
  rw [group?]
  split
  · next hnil =>
    refine ⟨_, rfl, fun entity => ?_⟩
    rw [Node.denote, hnil]
    rfl
  · have hleaves : ∀ l ∈ Node.leavesIn (a.content levels rootName),
        l.operator ∈ Registry.standard.supported := by
      intro l hl
      obtain ⟨k, hk, rfl⟩ := ha.leaf_of_mem_leavesIn hl
      obtain ⟨c, hc, rfl⟩ := List.mem_map.mp hk
      exact Registry.mem_supported_standard (ho c hc)
    obtain ⟨e, he, hd, -⟩ := Node.compile_ok .standard (.group (a.heading rootName none) _) hleaves
    exact ⟨e, he, hd⟩

lemma group?_eq_none {parent : Option String} {children : List Node} :
    a.group? name parent children = none ↔ children = [] := by
  rw [group?, ite_eq_left_iff, List.isEmpty_iff]
  simp

end Assembly

/-- A query holds of the same entities in whatever order its pairs come, unless that order decides
which of two parents or two conjunctions a group has. -/
theorem assemble_perm {cs ds : List Capture} (hn : ∀ c ∈ cs, c.IsNamed)
    (ho : ∀ c ∈ cs.filterMap Capture.clause?, c.operator ≠ .none) (ha : Capture.Agree cs)
    (hp : Capture.HaveOneParent cs) (h : cs.Perm ds) :
    ∃ s t e f, assemble cs = .ok s ∧ assemble ds = .ok t ∧ (s = none ↔ t = none) ∧
      compileFilter .standard s = .ok e ∧ compileFilter .standard t = .ok f ∧
      ∀ entity, e.holds entity = f.holds entity := by
  have hn' : ∀ c ∈ ds, c.IsNamed := fun c hc => hn c (h.mem_iff.mpr hc)
  have ho' : ∀ c ∈ ds.filterMap Capture.clause?, c.operator ≠ .none := fun c hc =>
    ho c ((h.filterMap _).mem_iff.mpr hc)
  have ha' : Capture.Agree ds := fun p hpm q hqm =>
    ha p ((h.filterMap _).mem_iff.mpr hpm) q ((h.filterMap _).mem_iff.mpr hqm)
  have hsame := Capture.saySame_of_perm h ha hp
  obtain ⟨a, hha, hsa, hs⟩ := assemble_eq hn ha
  obtain ⟨b, hhb, hsb, ht⟩ := assemble_eq hn' ha'
  obtain ⟨e, he, hde⟩ := hha.compile_root ho
  obtain ⟨f, hf, hdf⟩ := hhb.compile_root ho'
  refine ⟨_, _, e, f, hs, ht, ?_, he, hf, fun entity => ?_⟩
  · rw [Assembly.group?_eq_none, Assembly.group?_eq_none, ← not_iff_not]
    exact hha.content_ne_nil_congr hhb hsa hsb hsame
  · have hconjunction : (a.heading rootName none).conjunction =
        (b.heading rootName none).conjunction := by
      rw [hha.heading_eq, hhb.heading_eq, hsame.conjunction]
    rw [hde, hdf]
    exact Node.denote_group hconjunction
      (fun x hx => hha.exists_denote_eq hhb hsa hsb hsame entity hx)
      (fun y hy => hhb.exists_denote_eq hha hsb hsa hsame.symm entity hy)

def scatteredPairs : List Capture :=
  [ .clause ⟨some "inner", none, "age", .between, ["9"]⟩,
    .declaration ⟨"inner", some "outer", some .or⟩,
    .declaration ⟨"outer", some "outer", none⟩,
    .clause ⟨none, none, "tag", .notIn, ["b", "a"]⟩,
    .clause ⟨some "inner", some .or, "name", .startsWith, ["x", "y"]⟩,
    .declaration ⟨"outer", none, none⟩,
    .clause ⟨some "inner", none, "age", .between, ["1"]⟩ ]

theorem assemble_perm_scatteredPairs :
    (∀ c ∈ scatteredPairs, c.IsNamed) ∧
    (∀ c ∈ scatteredPairs.filterMap Capture.clause?, c.operator ≠ .none) ∧
    Capture.Agree scatteredPairs ∧ Capture.HaveOneParent scatteredPairs ∧
    scatteredPairs.Perm scatteredPairs.reverse ∧
    ∃ s t e f, assemble scatteredPairs = .ok s ∧ assemble scatteredPairs.reverse = .ok t ∧
      (s = none ↔ t = none) ∧ compileFilter .standard s = .ok e ∧
      compileFilter .standard t = .ok f ∧ ∀ entity, e.holds entity = f.holds entity := by
  have hn : ∀ c ∈ scatteredPairs, c.IsNamed := by decide
  have ho : ∀ c ∈ scatteredPairs.filterMap Capture.clause?, c.operator ≠ .none := by decide
  have ha : Capture.Agree scatteredPairs := by decide
  have hp : Capture.HaveOneParent scatteredPairs := by decide
  have h := scatteredPairs.reverse_perm.symm
  exact ⟨hn, ho, ha, hp, h, assemble_perm hn ho ha hp h⟩

end BracketQuery
