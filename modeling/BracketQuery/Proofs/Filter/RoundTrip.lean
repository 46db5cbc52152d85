import BracketQuery.Proofs.Filter.Rebuilt

/-! A tree that is written as a query is read as it was. -/

namespace BracketQuery

variable {o : Options} {p : FilterParser} {t : Group} {packed : Bool}

namespace Group.IsWritable

lemma pairs_readable (ht : t.IsWritable o) (hu : o.IsUnambiguous) :
    ∀ q ∈ t.pairs o packed, q.IsReadable o.groupKeyword := by
  intro q hq
  obtain ⟨g, hg, hq⟩ := List.mem_flatMap.mp hq
  obtain ⟨n, hn, hq⟩ := List.mem_flatMap.mp hq
  cases n with
  | leaf l => exact (ht.leaf_mem hg hn).pairs_readable hu (ht.isNameable hg) hq
  | group h cs =>
    rw [List.mem_singleton.mp hq]
    exact (ht.heading_mem hg hn).pair_readable (ht.isNameable hg)

lemma pairs_ne_nil (ht : t.IsWritable o) : t.pairs o packed ≠ [] := by
  have hroot := Node.mem_groups_toNode t
  obtain ⟨n, hn⟩ := List.exists_mem_of_ne_nil _ (ht.sorted t hroot).nonempty
  have hne : n.pairs o packed t.toHeading ≠ [] := by
    cases n with
    | leaf l =>
      intro h
      exact ((ht.leaf_mem hroot hn).texts_spec packed).1 (List.map_eq_nil_iff.mp h)
    | group h cs => exact List.cons_ne_nil _ _
  obtain ⟨q, hq⟩ := List.exists_mem_of_ne_nil _ hne
  exact List.ne_nil_of_mem
    (List.mem_flatMap.mpr ⟨t, hroot, List.mem_flatMap.mpr ⟨n, hn, hq⟩⟩)

lemma filterMap_pairs (ht : t.IsWritable o) (hk : o.groupKeyword ≠ "") :
    (t.pairs o packed).filterMap
        (fun q => Capture.ofMatch? o.valueDelimiter (q.matched o.filterKey)) =
      t.captures o.valueDelimiter packed := by
  rw [Group.pairs, Group.captures, List.filterMap_flatMap]
  apply List.flatMap_congr
  intro g hg
  rw [List.filterMap_flatMap]
  apply List.flatMap_congr
  intro n hn
  have hname := ht.isNameable hg
  cases n with
  | leaf l => exact (ht.leaf_mem hg hn).ofMatch?_pairs hname o.filterKey
  | group h cs =>
    have hone := (ht.heading_mem hg hn).ofMatch?_pair hname hk o.valueDelimiter o.filterKey
    simp [Node.pairs, Node.captures, hone]

end Group.IsWritable

namespace FilterParser

lemma ofOptions_eq_ok (h : ofOptions o = .ok p) :
    o.IsValid ∧ ∃ g, FilterGrammar.ofOptions o = .ok g ∧ p = ⟨g, o.valueDelimiter⟩ := by
  obtain ⟨_, hv, h⟩ := bind_eq_ok.mp h
  obtain ⟨g, hg, h⟩ := bind_eq_ok.mp h
  cases h
  exact ⟨Options.validate_eq_ok.mp hv, g, hg, rfl⟩

lemma captures_query (hp : ofOptions o = .ok p) (hb : o.matchBudget ≠ 0) (hu : o.IsUnambiguous)
    (ht : t.IsWritable o) : p.captures (t.query o packed) = t.captures o.valueDelimiter packed := by
  obtain ⟨hv, g, hg, rfl⟩ := ofOptions_eq_ok hp
  have hk : o.groupKeyword ≠ "" := hv.ne_empty (by simp)
  rw [captures, Group.query, FilterPair.scan_query hg hv hb (ht.pairs_readable hu) ht.pairs_ne_nil,
    List.filterMap_map]
  exact ht.filterMap_pairs hk

/--
A writable tree comes back from its query as it was, with all its children and values in their
order, whether the values of a leaf are packed in one pair or not.
-/
theorem parse_query (hp : ofOptions o = .ok p) (hb : o.matchBudget ≠ 0) (hu : o.IsUnambiguous)
    (ht : t.IsWritable o) (packed : Bool) : p.parse (t.query o packed) = .ok (some t) := by
  rw [parse, captures_query hp hb hu ht]
  exact ht.assemble_captures

def oddOptions : Options :=
  { Options.standard with filterKey := "q?", groupKeyword := "$Gruppe", valueDelimiter := '|' }

def oddInner : Group :=
  ⟨⟨"inner", some "outer", .or⟩,
    [ .leaf ⟨"age", some "inner", "age", .between, ⟨["18", "65"], by decide⟩⟩,
      .leaf ⟨"age", some "inner", "age", .isNull, ⟨[""], by decide⟩⟩ ]⟩

def oddOuter : Group := ⟨⟨"outer", some rootName, .and⟩, [oddInner.toNode]⟩

def oddLast : Group :=
  ⟨⟨"_ü =", some rootName, .or⟩,
    [.leaf ⟨"a b.c", some "_ü =", "a b.c", .regex, ⟨["^[x|y]$", ""], by decide⟩⟩]⟩

/-- A path that could be an index, a name with an equals sign, and values with a bracket, a percent
sign, blanks or nothing in them. -/
def oddTree : Group :=
  ⟨⟨rootName, none, .or⟩,
    [ .leaf ⟨"0", some rootName, "0", .isIn, ⟨["b=1", "a,%2C", " é "], by decide⟩⟩,
      oddOuter.toNode, oddLast.toNode ]⟩

lemma oddTree_groups : oddTree.toNode.groups = [oddTree, oddOuter, oddInner, oddLast] := rfl

lemma oddTree_isWritable : oddTree.IsWritable oddOptions where
  name := rfl
  groupName := rfl
  depth := by decide
  names := by decide
  conjunction := by
    intro h
    cases h
  sorted := by
    simp only [oddTree_groups, List.forall_mem_cons]
    exact ⟨⟨List.cons_ne_nil _ _, rfl, by decide⟩, ⟨List.cons_ne_nil _ _, rfl, by decide⟩,
      ⟨List.cons_ne_nil _ _, rfl, by decide⟩, ⟨List.cons_ne_nil _ _, rfl, by decide⟩, by simp⟩
  leaf := by decide +kernel
  heading := by decide +kernel

theorem parse_query_oddTree :
    ∃ p, ofOptions oddOptions = .ok p ∧ oddOptions.matchBudget ≠ 0 ∧ oddOptions.IsUnambiguous ∧
      oddTree.IsWritable oddOptions ∧ p.parse (oddTree.query oddOptions true) = .ok (some oddTree) ∧
      p.parse (oddTree.query oddOptions false) = .ok (some oddTree) := by
  have hfits : (FilterGrammar.pattern oddOptions).fits = true := by decide +kernel
  obtain ⟨p, hp⟩ : ∃ p, ofOptions oddOptions = .ok p := by
    rw [ofOptions, FilterGrammar.ofOptions, Grammar.ofPattern, if_pos hfits]
    exact ⟨_, rfl⟩
  have hb : oddOptions.matchBudget ≠ 0 := by decide
  have hu : oddOptions.IsUnambiguous := ⟨by decide +kernel, by decide +kernel⟩
  have ht := oddTree_isWritable
  exact ⟨p, hp, hb, hu, ht, parse_query hp hb hu ht true, parse_query hp hb hu ht false⟩

end FilterParser

end BracketQuery
