import BracketQuery.Proofs.Assembly.Conflict
import BracketQuery.Proofs.Filter.Escaped
import Mathlib.Data.List.Find

/-! Declarations of the root. They give it no parent, but a conjunction that they state is one of the
root's like any other. -/

namespace BracketQuery

namespace Capture

def declaresRoot : Capture → Bool
  | declaration d => d.name == rootName
  | clause _ => false

def withoutRoot (cs : List Capture) : List Capture := cs.filter fun c => !c.declaresRoot

def rootConjunctions (cs : List Capture) : List Conjunction :=
  (cs.filter declaresRoot).filterMap fun c => c.conjunction?.map Prod.snd

variable {cs : List Capture} {c : Capture} {g : String} {k : Conjunction}

lemma fst_of_declaresRoot (hc : c.declaresRoot = true) (hk : c.conjunction? = some (g, k)) :
    g = rootName := by
  cases c with
  | declaration d =>
    obtain ⟨_, -, he⟩ := Option.map_eq_some_iff.mp hk
    obtain ⟨rfl, -⟩ := Prod.mk.inj he
    exact beq_iff_eq.mp hc
  | clause c => cases hc

lemma mem_rootConjunctions : k ∈ rootConjunctions cs ↔
    ∃ c ∈ cs, c.declaresRoot = true ∧ c.conjunction? = some (rootName, k) := by
  simp only [rootConjunctions, List.mem_filterMap, List.mem_filter, Option.map_eq_some_iff]
  constructor
  · rintro ⟨c, ⟨hc, hr⟩, ⟨g, k⟩, hk, rfl⟩
    obtain rfl := fst_of_declaresRoot hr hk
    exact ⟨c, hc, hr, hk⟩
  · rintro ⟨c, hc, hr, hk⟩
    exact ⟨c, ⟨hc, hr⟩, _, hk, rfl⟩

lemma mem_withoutRoot : c ∈ withoutRoot cs ↔ c ∈ cs ∧ c.declaresRoot = false := by
  simp [withoutRoot]

lemma filterMap_clause?_withoutRoot (cs : List Capture) :
    (withoutRoot cs).filterMap clause? = cs.filterMap clause? := by
  rw [withoutRoot, List.filterMap_filter]
  apply List.filterMap_congr
  intro c _
  cases c with
  | declaration d => simp [clause?]
  | clause c => rfl

lemma filterMap_declaration?_withoutRoot (cs : List Capture) :
    (withoutRoot cs).filterMap declaration? =
      (cs.filterMap declaration?).filter fun d => d.name ≠ rootName := by
  rw [withoutRoot, List.filterMap_filter, List.filter_filterMap]
  apply List.filterMap_congr
  intro c _
  cases c with
  | declaration d => by_cases hr : d.name = rootName <;> simp [declaresRoot, declaration?, Option.filter, hr]
  | clause c => rfl

lemma lookup_withoutRoot (h : ∀ l ∈ rootConjunctions cs, l = k) (g : String) :
    (cs.filterMap conjunction?).lookup g = ((withoutRoot cs).filterMap conjunction?).lookup g ∨
      g = rootName ∧ (cs.filterMap conjunction?).lookup g = some k := by
  induction cs with
  | nil => exact .inl rfl
  | cons c cs ih =>
    have hrest := ih fun l hl => by
      obtain ⟨d, hd, hl⟩ := mem_rootConjunctions.mp hl
      exact h l (mem_rootConjunctions.mpr ⟨d, List.mem_cons_of_mem c hd, hl⟩)
    cases hc : c.conjunction? with
    | none =>
      cases hr : c.declaresRoot <;> simpa [withoutRoot, hr, hc] using hrest
    | some p =>
      obtain ⟨g', l⟩ := p
      cases hr : c.declaresRoot with
      | true =>
        obtain rfl := fst_of_declaresRoot hr hc
        obtain rfl := h l (mem_rootConjunctions.mpr ⟨c, List.mem_cons_self, hr, hc⟩)
        by_cases hg : g = rootName
        · exact .inr ⟨hg, by rw [List.filterMap_cons_some hc, hg, List.lookup_cons_self]⟩
        · simpa [withoutRoot, hr, List.filterMap_cons_some hc, lookup_cons_of_ne l hg] using hrest
      | false =>
        by_cases hg : g = g'
        · simp [withoutRoot, hr, hc, hg]
        · simpa [withoutRoot, hr, hc, lookup_cons_of_ne l hg] using hrest

lemma conjunctionOf_withoutRoot
    (h : ∀ k ∈ rootConjunctions cs, k = conjunctionOf (withoutRoot cs) rootName) :
    conjunctionOf (withoutRoot cs) = conjunctionOf cs := by
  funext g
  rcases lookup_withoutRoot h g with hg | ⟨rfl, hg⟩
  · rw [conjunctionOf, conjunctionOf, hg]
  · rw [conjunctionOf.eq_def cs, hg, Option.getD_some]

lemma lookup_of_mem (hc : c ∈ cs) (hk : c.conjunction? = some (g, k)) :
    (cs.filterMap conjunction?).lookup g = some (conjunctionOf cs g) := by
  have hmem : (g, k) ∈ cs.filterMap conjunction? := List.mem_filterMap.mpr ⟨c, hc, hk⟩
  cases hl : (cs.filterMap conjunction?).lookup g with
  | none =>
    have hne := List.lookup_eq_none_iff.mp hl _ hmem
    simp at hne
  | some l => rw [conjunctionOf, hl, Option.getD_some]

lemma conjunctionOf_of_mem (ha : Agree cs) (hc : c ∈ cs) (hk : c.conjunction? = some (g, k)) :
    conjunctionOf cs g = k :=
  ha _ (mem_of_lookup (lookup_of_mem hc hk)) _ (List.mem_filterMap.mpr ⟨c, hc, hk⟩) rfl

lemma disagrees_of_mem (hc : c ∈ cs) :
    disagrees cs c = c.conjunction?.any fun p => conjunctionOf cs p.1 != p.2 := by
  cases hk : c.conjunction? with
  | none => simp [disagrees, hk]
  | some p =>
    obtain ⟨g, k⟩ := p
    rw [Bool.eq_iff_iff]
    simp [disagrees, hk, Assembly.isSecond, lookup_of_mem hc hk]

lemma collectConjunctions_eq_error_iff {e : QueryError} :
    Assembly.collectConjunctions [] (cs.filterMap conjunction?) = .error e ↔
      ∃ p ∈ cs.find? (disagrees cs), ∃ g k, p.conjunction? = some (g, k) ∧
        e = .conjunctionConflict g (conjunctionOf cs g) k := by
  rw [collectConjunctions_eq_error_iff_find?]
  constructor
  · rintro ⟨p, hp, g, first, k, hk, hfirst, rfl⟩
    rw [lookup_of_mem (List.mem_of_find?_eq_some hp) hk] at hfirst
    obtain rfl := Option.some.inj hfirst
    exact ⟨p, hp, g, k, hk, rfl⟩
  · rintro ⟨p, hp, g, k, hk, rfl⟩
    exact ⟨p, hp, g, _, k, hk, lookup_of_mem (List.mem_of_find?_eq_some hp) hk, rfl⟩

lemma find?_disagrees_withoutRoot
    (h : ∀ k ∈ rootConjunctions cs, k = conjunctionOf (withoutRoot cs) rootName) :
    (withoutRoot cs).find? (disagrees (withoutRoot cs)) = cs.find? (disagrees cs) := by
  have hsame := conjunctionOf_withoutRoot h
  rw [withoutRoot, List.find?_filter]
  refine List.find?_congr fun c hc => ?_
  rw [← withoutRoot, disagrees_of_mem hc]
  cases hr : c.declaresRoot with
  | false =>
    rw [disagrees_of_mem (mem_withoutRoot.mpr ⟨hc, hr⟩), hsame]
    simp
  | true =>
    -- its conjunction is the one that the root has, so that it does not disagree with it
    cases hk : c.conjunction? with
    | none => simp
    | some p =>
      obtain ⟨g, k⟩ := p
      obtain rfl := fst_of_declaresRoot hr hk
      have hroot := h k (mem_rootConjunctions.mpr ⟨c, hc, hr, hk⟩)
      simp [← hsame, ← hroot]

lemma collectConjunctions_withoutRoot
    (h : ∀ k ∈ rootConjunctions cs, k = conjunctionOf (withoutRoot cs) rootName) {e : QueryError} :
    Assembly.collectConjunctions [] ((withoutRoot cs).filterMap conjunction?) = .error e ↔
      Assembly.collectConjunctions [] (cs.filterMap conjunction?) = .error e := by
  rw [collectConjunctions_eq_error_iff, collectConjunctions_eq_error_iff,
    find?_disagrees_withoutRoot h, conjunctionOf_withoutRoot h]

end Capture

namespace Assembly

variable {a b : Assembly} {cs : List Capture}

lemma ofCaptures_eq_error {e : QueryError} : ofCaptures cs = .error e ↔
    collectConjunctions [] (cs.filterMap Capture.conjunction?) = .error e := by
  rw [ofCaptures]
  cases collectConjunctions [] (cs.filterMap Capture.conjunction?) <;> simp [Except.map]

lemma collectParents_filter (known : List (String × String)) (ds : List Declaration) :
    collectParents known (ds.filter fun d => d.name ≠ rootName) = collectParents known ds := by
  induction ds generalizing known with
  | nil => rfl
  | cons d ds ih =>
    rw [collectParents_cons]
    by_cases hr : d.name = rootName
    · rw [if_pos (.inl hr), ← ih known, List.filter_cons_of_neg (by simpa using hr)]
    · rw [List.filter_cons_of_pos (by simpa using hr), collectParents_cons]
      split <;> exact ih _

lemma build_congr (hl : a.leaves = b.leaves) (hp : a.parents = b.parents)
    (hh : ∀ name parent, a.heading name parent = b.heading name parent) (levels : Nat)
    (ancestors : List String) (name : String) (parent : Option String) :
    a.build levels ancestors name parent = b.build levels ancestors name parent := by
  have hleaves (name : String) : a.leavesOf name = b.leavesOf name := by
    rw [leavesOf, leavesOf, hl]
  have hchildren (name : String) : a.childrenOf name = b.childrenOf name := by
    rw [childrenOf, childrenOf, hp]
  have hclose (name : String) (parent : Option String) (children : List Node) :
      a.close name parent children = b.close name parent children := by
    have hconjunction := congrArg Heading.conjunction (hh name parent)
    rw [close, close]
    exact congrArg (fun c => if children.isEmpty then Except.ok none
      else (Group.make name parent c children).map some) hconjunction
  induction levels generalizing ancestors name parent with
  | zero => simp only [build, hleaves, hclose]
  | succ levels ih => simp only [build, hleaves, hchildren, hclose, ih]

lemma heading_of_close {name : String} {parent : Option String} {children : List Node} {t : Group}
    (h : a.close name parent children = .ok (some t)) : t.toHeading = a.heading name parent := by
  rw [close, Group.make] at h
  split at h
  · cases h
  · split at h
    · cases h
    · cases h
      rfl

lemma heading_of_build {levels : Nat} {ancestors : List String} {name : String}
    {parent : Option String} {t : Group}
    (h : a.build levels ancestors name parent = .ok (some t)) :
    t.toHeading = a.heading name parent := by
  cases levels with
  | zero =>
    obtain ⟨leaves, -, h⟩ := bind_eq_ok.mp h
    exact heading_of_close h
  | succ levels =>
    obtain ⟨leaves, -, h⟩ := bind_eq_ok.mp h
    obtain ⟨groups, -, h⟩ := bind_eq_ok.mp h
    exact heading_of_close h

end Assembly

section

open Capture

variable {cs : List Capture}

lemma agree_withoutRoot (h : Agree cs) : Agree (withoutRoot cs) := by
  have hsub : (withoutRoot cs).filterMap conjunction? ⊆ cs.filterMap conjunction? :=
    List.filterMap_subset _ List.filter_sublist.subset
  exact fun p hp q hq => h p (hsub hp) q (hsub hq)

lemma exists_holds_withoutRoot (ha : Agree cs) : ∃ a b : Assembly,
    a.Holds (withoutRoot cs) ∧ b.Holds cs ∧ a.leaves = b.leaves ∧ a.parents = b.parents ∧
      assemble (withoutRoot cs) = a.build maxGroupDepth [] rootName none ∧
      assemble cs = b.build maxGroupDepth [] rootName none := by
  obtain ⟨a, ha', hha⟩ := Assembly.ofCaptures_holds (agree_withoutRoot ha)
  obtain ⟨b, hb, hhb⟩ := Assembly.ofCaptures_holds ha
  refine ⟨a, b, hha, hhb, ?_, ?_, by rw [assemble, ha']; rfl, by rw [assemble, hb]; rfl⟩
  · simp only [hha.leaves, hhb.leaves, leafKeys, valuesOf, filterMap_clause?_withoutRoot]
  · rw [hha.parents, hhb.parents, filterMap_declaration?_withoutRoot,
      Assembly.collectParents_filter]

lemma assemble_withoutRoot_of_forall
    (h : ∀ k ∈ rootConjunctions cs, k = conjunctionOf (withoutRoot cs) rootName) :
    assemble (withoutRoot cs) = assemble cs := by
  by_cases ha : Agree cs
  · obtain ⟨a, b, hha, hhb, hl, hp, ht, ht'⟩ := exists_holds_withoutRoot ha
    rw [ht, ht']
    refine Assembly.build_congr hl hp (fun name parent => ?_) _ _ _ _
    rw [hha.heading_eq, hhb.heading_eq, conjunctionOf_withoutRoot h]
  · obtain ⟨g, c, d, herror⟩ := (Assembly.ofCaptures_cases cs).resolve_right ha
    have herror' := herror
    rw [Assembly.ofCaptures_eq_error, ← collectConjunctions_withoutRoot h,
      ← Assembly.ofCaptures_eq_error] at herror'
    rw [assemble, assemble, herror, herror']

lemma conjunction_of_assemble {t : Group} (h : assemble cs = .ok (some t)) :
    t.conjunction = conjunctionOf cs rootName := by
  obtain ⟨a, ha, hh⟩ := Assembly.ofCaptures_holds (agree_of_assemble h)
  rw [assemble, ha] at h
  rw [Assembly.heading_of_build h, hh.heading_eq]

/-- Declarations of the root might as well not be there if they state no conjunction but the one that
the root has without them. Where there is a tree, they only might if that is so. -/
theorem assemble_withoutRoot (cs : List Capture) :
    ((∀ k ∈ rootConjunctions cs, k = conjunctionOf (withoutRoot cs) rootName) →
      assemble (withoutRoot cs) = assemble cs) ∧
    ∀ t, assemble (withoutRoot cs) = .ok (some t) →
      (assemble (withoutRoot cs) = assemble cs ↔ ∀ k ∈ rootConjunctions cs, k = t.conjunction) := by
  refine ⟨assemble_withoutRoot_of_forall, fun t ht => ⟨fun he k hk => ?_, fun h => ?_⟩⟩
  · rw [ht] at he
    obtain ⟨c, hc, -, hck⟩ := mem_rootConjunctions.mp hk
    rw [conjunction_of_assemble he.symm, conjunctionOf_of_mem (agree_of_assemble he.symm) hc hck]
  · rw [conjunction_of_assemble ht] at h
    exact assemble_withoutRoot_of_forall h

def twoConditions (k : Conjunction) : Group :=
  ⟨⟨rootName, none, k⟩,
    [ .leaf ⟨"a", some rootName, "a", .equalTo, .ofList ["1"]⟩,
      .leaf ⟨"b", some rootName, "b", .equalTo, .ofList ["2"]⟩ ]⟩

def declaredPairs (parent : Option String) (k : Option Conjunction) : List Capture :=
  [ .declaration ⟨rootName, parent, k⟩, .clause ⟨none, none, "a", .equalTo, ["1"]⟩,
    .clause ⟨none, none, "b", .equalTo, ["2"]⟩ ]

theorem assemble_declaredPairs :
    (∀ k ∈ rootConjunctions (declaredPairs (some "g") (some .and)),
      k = conjunctionOf (withoutRoot (declaredPairs (some "g") (some .and))) rootName) ∧
    assemble (withoutRoot (declaredPairs (some "g") (some .and))) =
      assemble (declaredPairs (some "g") (some .and)) ∧
    assemble (withoutRoot (declaredPairs none (some .or))) = .ok (some (twoConditions .and)) ∧
    assemble (withoutRoot (declaredPairs none (some .or))) ≠
      assemble (declaredPairs none (some .or)) := by
  have hsame : ∀ k ∈ rootConjunctions (declaredPairs (some "g") (some .and)),
      k = conjunctionOf (withoutRoot (declaredPairs (some "g") (some .and))) rootName := by
    decide
  have hrest : assemble (withoutRoot (declaredPairs none (some .or))) =
      .ok (some (twoConditions .and)) := rfl
  refine ⟨hsame, (assemble_withoutRoot _).1 hsame, hrest, fun h => ?_⟩
  have hor := ((assemble_withoutRoot _).2 _ hrest).mp h .or (by decide)
  cases hor

/-- A declaration that the root is a disjunction makes it one. -/
theorem parse_rootDeclaration : ∃ p, FilterParser.ofOptions .standard = .ok p ∧
    p.parse "filter[group][$or]=root&filter[a]=1&filter[b]=2" = .ok (some (twoConditions .or)) ∧
    assemble (withoutRoot (p.captures "filter[group][$or]=root&filter[a]=1&filter[b]=2")) =
      .ok (some (twoConditions .and)) ∧
    assemble (withoutRoot (p.captures "filter[group][$or]=root&filter[a]=1&filter[b]=2")) ≠
      assemble (p.captures "filter[group][$or]=root&filter[a]=1&filter[b]=2") := by
  obtain ⟨p, hp⟩ := FilterParser.exists_ofOptions_standard
  have hcaptures := FilterParser.captures_eq hp (by decide)
    "filter[group][$or]=root&filter[a]=1&filter[b]=2"
  have hpairs : (FilterPair.pairsFrom Options.standard.filterKey Options.standard.groupKeyword true
      (Percent.decode (Grammar.strip
        "filter[group][$or]=root&filter[a]=1&filter[b]=2".toList))).filterMap
        (fun q => Capture.ofMatch? Options.standard.valueDelimiter q.toMatch) =
      [ .declaration ⟨"root", none, some .or⟩, .clause ⟨none, none, "a", .equalTo, ["1"]⟩,
        .clause ⟨none, none, "b", .equalTo, ["2"]⟩ ] := by
    decide +kernel
  rw [hpairs] at hcaptures
  have hall : assemble (p.captures "filter[group][$or]=root&filter[a]=1&filter[b]=2") =
      .ok (some (twoConditions .or)) := by
    rw [hcaptures]
    rfl
  have hrest : assemble (withoutRoot (p.captures
      "filter[group][$or]=root&filter[a]=1&filter[b]=2")) = .ok (some (twoConditions .and)) := by
    rw [hcaptures]
    rfl
  refine ⟨p, hp, hall, hrest, ?_⟩
  rw [hall, hrest]
  intro h
  injection h with h
  cases congrArg (fun t => t.map fun t => t.conjunction) h

end

end BracketQuery
