import BracketQuery.Proofs.Assembly.Tables

/-! Pairs that a query has already change nothing when they come again. -/

namespace BracketQuery

lemma ValueSet.ofList_append_of_subset {xs ys : List String} (h : ys ⊆ xs) :
    ofList (xs ++ ys) = ofList xs := by
  have hlist : (ofList (xs ++ ys)).toList = (ofList xs).toList := distinctItems_append_of_subset h
  cases hl : ofList (xs ++ ys)
  cases hr : ofList xs
  simpa [hl, hr] using hlist

namespace Assembly

section

variable {known ps qs : List (String × Conjunction)}

lemma collectConjunctions_append (known ps qs : List (String × Conjunction)) :
    collectConjunctions known (ps ++ qs) =
      (collectConjunctions known ps).bind fun ks => collectConjunctions ks qs := by
  induction ps generalizing known with
  | nil => rfl
  | cons p ps ih =>
    obtain ⟨g, c⟩ := p
    rw [List.cons_append, collectConjunctions, collectConjunctions]
    split
    · split
      · exact ih known
      · rfl
    · exact ih _

lemma collectConjunctions_of_lookup (h : ∀ p ∈ ps, known.lookup p.1 = some p.2) :
    collectConjunctions known ps = .ok known := by
  induction ps with
  | nil => rfl
  | cons p ps ih =>
    obtain ⟨hp, hps⟩ := List.forall_mem_cons.mp h
    rw [collectConjunctions, hp]
    simpa using ih hps

lemma collectConjunctions_repeated (h : qs ⊆ ps) :
    collectConjunctions known (ps ++ qs) = collectConjunctions known ps := by
  rw [collectConjunctions_append]
  rcases collectConjunctions_cases known ps with ⟨g, c, d, herror⟩ | ⟨ks, hks, -, hmem⟩
  · rw [herror]
    rfl
  · rw [hks]
    exact collectConjunctions_of_lookup fun q hq => hmem q (h hq)

end

section

variable {known : List (String × String)} {d : Declaration} {ds es : List Declaration}

lemma collectParents_of_isIgnored (h : ∀ d ∈ ds, IsIgnored known d) :
    collectParents known ds = known := by
  induction ds with
  | nil => rfl
  | cons d ds ih =>
    obtain ⟨hd, hds⟩ := List.forall_mem_cons.mp h
    rw [collectParents_cons, if_pos hd, ih hds]

lemma IsIgnored.collected (h : IsIgnored known d) (ds : List Declaration) :
    IsIgnored (collectParents known ds) d := by
  refine h.imp_right (Or.imp_right fun hk => ?_)
  obtain ⟨p, hp⟩ := Option.isSome_iff_exists.mp hk
  rw [lookup_collectParents, hp, Option.some_or, Option.isSome_some]

lemma isIgnored_of_mem_collected : ∀ d ∈ ds, IsIgnored (collectParents known ds) d := by
  induction ds generalizing known with
  | nil => simp
  | cons d ds ih =>
    rw [collectParents_cons]
    split
    · next hd => exact List.forall_mem_cons.mpr ⟨hd.collected ds, ih⟩
    · have hd : IsIgnored (known ++ [(d.name, d.parentName)]) d := by
        refine .inr (.inr ?_)
        rw [List.lookup_append, List.lookup_cons_self, Option.isSome_or, Option.isSome_some,
          Bool.or_true]
      exact List.forall_mem_cons.mpr ⟨hd.collected ds, ih⟩

lemma collectParents_repeated (h : es ⊆ ds) :
    collectParents known (ds ++ es) = collectParents known ds := by
  rw [collectParents_append]
  exact collectParents_of_isIgnored fun e he => isIgnored_of_mem_collected e (h he)

end

lemma collectLeaves_repeated {cs ds : List Clause} (h : ds ⊆ cs) :
    collectLeaves (cs ++ ds) = collectLeaves cs := by
  rw [collectLeaves_eq, collectLeaves_eq, List.map_append,
    distinctItems_append_of_subset (List.map_subset _ h)]
  apply List.map_congr_left
  intro k _
  have hvalues : (ds.filter fun c => c.key = k).flatMap Clause.values ⊆
      (cs.filter fun c => c.key = k).flatMap Clause.values := by
    intro v hv
    obtain ⟨c, hc, hv⟩ := List.mem_flatMap.mp hv
    obtain ⟨hc, hk⟩ := List.mem_filter.mp hc
    exact List.mem_flatMap.mpr ⟨c, List.mem_filter.mpr ⟨h hc, hk⟩, hv⟩
  rw [List.filter_append, List.flatMap_append, ValueSet.ofList_append_of_subset hvalues]

lemma ofCaptures_repeated {cs ds : List Capture} (h : ds ⊆ cs) :
    ofCaptures (cs ++ ds) = ofCaptures cs := by
  simp only [ofCaptures, List.filterMap_append]
  rw [collectConjunctions_repeated (List.filterMap_subset _ h),
    collectParents_repeated (List.filterMap_subset _ h),
    collectLeaves_repeated (List.filterMap_subset _ h)]

end Assembly

/-- The tree of a query, or its conflict, is the same when some of its pairs come again. -/
theorem assemble_repeated {cs ds : List Capture} (h : ds ⊆ cs) :
    assemble (cs ++ ds) = assemble cs := by
  rw [assemble, assemble, Assembly.ofCaptures_repeated h]

def echoPairs : List Capture :=
  [ .clause ⟨some "inner", none, "age", .between, ["9", "1"]⟩,
    .declaration ⟨"inner", some "outer", some .or⟩,
    .declaration ⟨"outer", some "outer", none⟩,
    .clause ⟨none, some .and, "tag", .notIn, ["b", "a", "b"]⟩,
    .declaration ⟨"inner", none, none⟩,
    .clause ⟨some "lost", none, "tag", .equalTo, ["c"]⟩,
    .clause ⟨none, none, "tag", .notIn, ["c", "a"]⟩,
    .declaration ⟨"outer", none, none⟩ ]

theorem assemble_repeated_echoPairs :
    echoPairs.reverse ⊆ echoPairs ∧ ∃ t, assemble echoPairs = .ok (some t) ∧
      assemble (echoPairs ++ echoPairs.reverse) = .ok (some t) :=
  have h : echoPairs.reverse ⊆ echoPairs := fun _ => List.mem_reverse.mp
  ⟨h, _, rfl, assemble_repeated h⟩

end BracketQuery
