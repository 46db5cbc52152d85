import BracketQuery.Proofs.Expression.Unsupported
import BracketQuery.Proofs.Filter.Escaped

/-! A look-up in a tree finds the first of its leaves or groups, in the order of the traversal. -/

namespace BracketQuery

lemma filter_eq_find?_toList {α κ : Type} [DecidableEq κ] {f : α → κ} {xs : List α}
    (h : (xs.map f).Nodup) (k : κ) :
    xs.filter (fun x => f x == k) = (xs.find? fun x => f x == k).toList := by
  induction xs with
  | nil => rfl
  | cons x xs ih =>
    rw [List.map_cons, List.nodup_cons] at h
    by_cases hx : f x = k
    · have hrest : xs.filter (fun y => f y == k) = [] := by
        refine List.filter_eq_nil_iff.mpr fun y hy hk => h.1 ?_
        rw [hx, ← beq_iff_eq.mp hk]
        exact List.mem_map_of_mem hy
      simp [hx, hrest]
    · simpa [hx] using ih h.2

namespace Node

mutual

lemma findLeaf?_eq_find? (path : String) : ∀ n : Node,
    n.findLeaf? path = n.leaves.find? fun l => l.path == path
  | leaf l => by
    by_cases h : l.path = path <;> simp [findLeaf?, leaves, h]
  | group _ cs => by
    rw [findLeaf?, leaves, findLeafIn?_eq_find? path cs]

lemma findLeafIn?_eq_find? (path : String) : ∀ cs : List Node,
    findLeafIn? path cs = (leavesIn cs).find? fun l => l.path == path
  | [] => rfl
  | c :: cs => by
    -- a child without such a leaf hands over to those after it
    rw [findLeafIn?, leavesIn, List.find?_append, findLeaf?_eq_find? path c,
      findLeafIn?_eq_find? path cs]

end

mutual

lemma findGroup?_eq_find? (name : String) : ∀ n : Node,
    n.findGroup? name = n.groups.find? fun g => g.name == name
  | leaf _ => rfl
  | group head cs => by
    rw [findGroup?, groups, List.find?_cons, findGroupIn?_eq_find? name cs]
    by_cases h : head.name = name
    · simp [h]
    · simp [h, beq_eq_false_iff_ne.mpr h]

lemma findGroupIn?_eq_find? (name : String) : ∀ cs : List Node,
    findGroupIn? name cs = (groupsIn cs).find? fun g => g.name == name
  | [] => rfl
  | c :: cs => by
    rw [findGroupIn?, groupsIn, List.find?_append, findGroup?_eq_find? name c,
      findGroupIn?_eq_find? name cs]

end

lemma compile_conditions {r : Registry} {n : Node} {e : Expression} (h : n.compile r = .ok e) :
    List.Forall₂ (fun l c => r.build l = .ok c) n.leaves e.conditions := by
  have hsupported := Registry.find?_lacks_eq_none.mp (compile_eq_ok_iff.mp ⟨e, h⟩)
  obtain ⟨f, hf, -, hconditions⟩ :=
    n.compile_ok r fun l hl => Registry.mem_supported.mpr (hsupported l hl)
  rw [h] at hf
  cases hf
  exact hconditions

end Node

lemma FilterParser.isWellFormed_of_parse {p : FilterParser} {raw : String} {t : Group}
    (h : p.parse raw = .ok (some t)) : t.IsWellFormed := by
  have hc : ∀ c ∈ p.captures raw, c.IsUsable := p.isUsable_of_mem_captures
  rcases assemble_wellFormed hc with ⟨g, c, d, he⟩ | ⟨s, hs, hw⟩
  · rw [parse, he] at h
    cases h
  · rw [parse, hs] at h
    cases h
    exact hw t rfl

namespace Group

variable {t : Group}

lemma findLeaf?_eq (t : Group) (path : String) :
    t.findLeaf? path = t.toNode.leaves.find? fun l => l.path == path := by
  rw [toNode, Node.leaves]
  exact Node.findLeafIn?_eq_find? path t.children

lemma findGroup?_eq (t : Group) (name : String) :
    t.findGroup? name = t.toNode.groups.find? fun g => g.name == name :=
  Node.findGroup?_eq_find? name t.toNode

/--
A leaf is looked up by its path as the first such leaf of the tree, in the order in which the
conditions of the compiled tree come, and a group by its name as the first such group, the tree
itself before all groups in it. What the tree does not have is not found. In a tree that is parsed
no other group has the name of the one that is found.
-/
theorem find_first (t : Group) :
    (∀ path, t.findLeaf? path = t.toNode.leaves.find? (fun l => l.path == path) ∧
      (t.findLeaf? path = none ↔ ∀ l ∈ t.toNode.leaves, l.path ≠ path)) ∧
    (∀ r e, t.compile r = .ok e →
      List.Forall₂ (fun l c => r.build l = .ok c) t.toNode.leaves e.conditions) ∧
    (∀ name, t.findGroup? name = t.toNode.groups.find? (fun g => g.name == name) ∧
      (t.findGroup? name = none ↔ ∀ g ∈ t.toNode.groups, g.name ≠ name)) ∧
    ∀ (p : FilterParser) (raw : String), p.parse raw = .ok (some t) → ∀ name,
      t.toNode.groups.filter (fun g => g.name == name) = (t.findGroup? name).toList := by
  refine ⟨fun path => ⟨t.findLeaf?_eq path, ?_⟩, fun r e he => Node.compile_conditions he,
    fun name => ⟨t.findGroup?_eq name, ?_⟩, fun p raw hp name => ?_⟩
  · rw [findLeaf?_eq, List.find?_eq_none]
    simp only [beq_iff_eq, ne_eq]
  · rw [findGroup?_eq, List.find?_eq_none]
    simp only [beq_iff_eq, ne_eq]
  · rw [findGroup?_eq]
    exact filter_eq_find?_toList (FilterParser.isWellFormed_of_parse hp).names name

def shopQuery : String :=
  "filter[group]=shop&filter[group][shop][0]=shelf&filter[shelf][0][size]=1" ++
    "&filter[group][$or]=owner&filter[owner][0][age]=2&filter[owner][0][size][$gt]=3"

def shopTree : Group :=
  let owner : List Node :=
    [.leaf ⟨"age", some "owner", "age", .equalTo, .ofList ["2"]⟩,
      .leaf ⟨"size", some "owner", "size", .greaterThan, .ofList ["3"]⟩]
  let shelf : List Node := [.leaf ⟨"size", some "shelf", "size", .equalTo, .ofList ["1"]⟩]
  ⟨⟨rootName, none, .and⟩,
    [.group ⟨"shop", some rootName, .and⟩ [.group ⟨"shelf", some "shop", .and⟩ shelf],
      .group ⟨"owner", some rootName, .or⟩ owner]⟩

theorem find_first_shopTree :
    (∃ p, FilterParser.ofOptions .standard = .ok p ∧ p.parse shopQuery = .ok (some shopTree) ∧
      shopTree.toNode.groups.filter (fun g => g.name == "owner") =
        (shopTree.findGroup? "owner").toList) ∧
    (∃ e, shopTree.compile .standard = .ok e ∧
      List.Forall₂ (fun l c => Registry.standard.build l = .ok c) shopTree.toNode.leaves
        e.conditions) ∧
    shopTree.findLeaf? "age" = some ⟨"age", some "owner", "age", .equalTo, .ofList ["2"]⟩ ∧
    shopTree.findLeaf? "size" = some ⟨"size", some "shelf", "size", .equalTo, .ofList ["1"]⟩ ∧
    shopTree.findLeaf? "shelf" = none ∧ (shopTree.findGroup? "owner").isSome = true ∧
    (shopTree.findGroup? "age").isNone = true := by
  obtain ⟨-, hcompile, -, hparse⟩ := find_first shopTree
  obtain ⟨p, hp⟩ := FilterParser.exists_ofOptions_standard
  have hcaptures := FilterParser.captures_eq hp (by decide) shopQuery
  have hpairs : (FilterPair.pairsFrom Options.standard.filterKey Options.standard.groupKeyword true
      (Percent.decode (Grammar.strip shopQuery.toList))).filterMap
        (fun q => Capture.ofMatch? Options.standard.valueDelimiter q.toMatch) =
      [ .declaration ⟨"shop", none, none⟩, .declaration ⟨"shelf", some "shop", none⟩,
        .clause ⟨some "shelf", none, "size", .equalTo, ["1"]⟩,
        .declaration ⟨"owner", none, some .or⟩,
        .clause ⟨some "owner", none, "age", .equalTo, ["2"]⟩,
        .clause ⟨some "owner", none, "size", .greaterThan, ["3"]⟩ ] := by
    decide +kernel
  have htree : p.parse shopQuery = .ok (some shopTree) := by
    rw [FilterParser.parse, hcaptures, hpairs]
    rfl
  exact ⟨⟨p, hp, htree, hparse p shopQuery htree "owner"⟩, ⟨_, rfl, hcompile _ _ rfl⟩,
    by decide, by decide, by decide, by decide, by decide⟩

end Group

end BracketQuery
