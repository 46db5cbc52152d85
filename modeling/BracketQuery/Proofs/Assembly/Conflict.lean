import BracketQuery.Proofs.Assembly.Exact
import BracketQuery.Proofs.Filter.WellFormed

/-! Which conflict of conjunctions is reported. -/

namespace BracketQuery

namespace Assembly

def isSecond (ps : List (String × Conjunction)) (p : String × Conjunction) : Bool :=
  ps.lookup p.1 != some p.2

lemma isSecond_of_lookup {ps qs : List (String × Conjunction)} (h : ∀ g, ps.lookup g = qs.lookup g) :
    isSecond ps = isSecond qs := by
  funext p
  rw [isSecond, isSecond, h]

lemma collectConjunctions_eq_error {known ps : List (String × Conjunction)} {e : QueryError} :
    collectConjunctions known ps = .error e ↔
      ∃ p ∈ ps.find? (isSecond (known ++ ps)), ∃ first,
        (known ++ ps).lookup p.1 = some first ∧ e = .conjunctionConflict p.1 first p.2 := by
  induction ps generalizing known with
  | nil => simp [collectConjunctions]
  | cons p ps ih =>
    obtain ⟨g, c⟩ := p
    rw [collectConjunctions]
    cases hd : known.lookup g with
    | some d =>
      have hg : (known ++ (g, c) :: ps).lookup g = some d := by
        rw [List.lookup_append, hd, Option.some_or]
      by_cases hdc : d = c
      · -- the pair says nothing new, so that all look-ups are as they are without it
        have hlookup : ∀ k, (known ++ (g, c) :: ps).lookup k = (known ++ ps).lookup k := by
          intro k
          rw [List.lookup_append, List.lookup_append]
          by_cases hk : k = g
          · rw [hk, hd, Option.some_or, Option.some_or]
          · rw [lookup_cons_of_ne c hk]
        have hfirst : isSecond (known ++ ps) (g, c) = false := by
          simp [isSecond, ← hlookup, hg, hdc]
        simp only [hdc, if_true, isSecond_of_lookup hlookup, List.find?_cons, hfirst, hlookup]
        exact ih
      · have hsecond : isSecond (known ++ (g, c) :: ps) (g, c) = true := by
          simp [isSecond, hg, hdc]
        simp [hdc, hsecond, hg, eq_comm]
    | none =>
      have hg : isSecond (known ++ (g, c) :: ps) (g, c) = false := by
        simp [isSecond, List.lookup_append, hd]
      have happend : known ++ (g, c) :: ps = known ++ [(g, c)] ++ ps := by
        rw [List.append_assoc, List.singleton_append]
      simp only [List.find?_cons, hg]
      rw [happend]
      exact ih

end Assembly

namespace Capture

/-- Whether a pair gives its group another conjunction than the first one that the group is given
by any of the pairs. -/
def disagrees (cs : List Capture) (c : Capture) : Bool :=
  c.conjunction?.any (Assembly.isSecond (cs.filterMap conjunction?))

end Capture

section

open Capture

variable {cs : List Capture}

lemma assemble_eq_error_iff_collect (hn : ∀ c ∈ cs, c.IsNamed) {e : QueryError} :
    assemble cs = .error e ↔
      Assembly.collectConjunctions [] (cs.filterMap conjunction?) = .error e := by
  cases hc : Assembly.collectConjunctions [] (cs.filterMap conjunction?) with
  | error f =>
    simp [assemble, Assembly.ofCaptures, hc, Except.map, bind, Except.bind]
  | ok ks =>
    have ha : Agree cs := by
      refine (Assembly.ofCaptures_cases cs).resolve_left ?_
      rintro ⟨g, c, d, h⟩
      rw [Assembly.ofCaptures, hc] at h
      cases h
    obtain ⟨a, -, -, ht⟩ := assemble_eq hn ha
    simp only [ht, reduceCtorEq]

lemma collectConjunctions_eq_error_iff_find? {e : QueryError} :
    Assembly.collectConjunctions [] (cs.filterMap conjunction?) = .error e ↔
      ∃ p ∈ cs.find? (disagrees cs), ∃ g first requested, p.conjunction? = some (g, requested) ∧
        (cs.filterMap conjunction?).lookup g = some first ∧
          e = .conjunctionConflict g first requested := by
  have hfind : (cs.filterMap conjunction?).find? (Assembly.isSecond (cs.filterMap conjunction?)) =
      (cs.find? (disagrees cs)).bind conjunction? :=
    List.find?_filterMap
  rw [Assembly.collectConjunctions_eq_error, List.nil_append, hfind]
  constructor
  · rintro ⟨⟨g, requested⟩, hp, first, hfirst, rfl⟩
    obtain ⟨p, hp, hpc⟩ := Option.bind_eq_some_iff.mp hp
    exact ⟨p, hp, g, first, requested, hpc, hfirst, rfl⟩
  · rintro ⟨p, hp, g, first, requested, hpc, hfirst, rfl⟩
    exact ⟨(g, requested), Option.bind_eq_some_iff.mpr ⟨p, hp, hpc⟩, first, hfirst, rfl⟩

lemma assemble_eq_error_iff_find? (hn : ∀ c ∈ cs, c.IsNamed) {e : QueryError} :
    assemble cs = .error e ↔ ∃ p ∈ cs.find? (disagrees cs), ∃ g first requested,
      p.conjunction? = some (g, requested) ∧
        (cs.filterMap conjunction?).lookup g = some first ∧
          e = .conjunctionConflict g first requested := by
  rw [assemble_eq_error_iff_collect hn, collectConjunctions_eq_error_iff_find?]

lemma agree_iff_forall : Agree cs ↔ ∀ p ∈ cs, ∀ q ∈ cs, ∀ g c d,
    p.conjunction? = some (g, c) → q.conjunction? = some (g, d) → c = d := by
  constructor
  · intro h p hp q hq g c d hc hd
    exact h (g, c) (List.mem_filterMap.mpr ⟨p, hp, hc⟩) (g, d) (List.mem_filterMap.mpr ⟨q, hq, hd⟩)
      rfl
  · rintro h ⟨g, c⟩ hc ⟨g', d⟩ hd rfl
    obtain ⟨p, hp, hpc⟩ := List.mem_filterMap.mp hc
    obtain ⟨q, hq, hqd⟩ := List.mem_filterMap.mp hd
    exact h p hp q hq g c d hpc hqd

/--
Pairs are not assembled exactly if two of them give one group different conjunctions. The error
names the first pair that disagrees with the first conjunction of its group, and that conjunction.
What a query has besides its pairs takes no part.
-/
theorem assemble_eq_error (hn : ∀ c ∈ cs, c.IsNamed) :
    ((∃ e, assemble cs = .error e) ↔ ∃ p ∈ cs, ∃ q ∈ cs, ∃ g c d,
      p.conjunction? = some (g, c) ∧ q.conjunction? = some (g, d) ∧ c ≠ d) ∧
    (∀ e, assemble cs = .error e ↔ ∃ p ∈ cs.find? (disagrees cs), ∃ g first requested,
      p.conjunction? = some (g, requested) ∧
        (cs.filterMap conjunction?).lookup g = some first ∧
          e = .conjunctionConflict g first requested) ∧
    ∀ (d : Char) (m : GrammarMatch) (ms ms' : List GrammarMatch), ofMatch? d m = none →
      assemble ((ms ++ m :: ms').filterMap (ofMatch? d)) =
        assemble ((ms ++ ms').filterMap (ofMatch? d)) := by
  refine ⟨?_, fun e => assemble_eq_error_iff_find? hn, fun d m ms ms' hm => ?_⟩
  · constructor
    · rintro ⟨e, he⟩
      have ha : ¬ Agree cs := by
        intro h
        obtain ⟨a, -, -, ht⟩ := assemble_eq hn h
        rw [ht] at he
        cases he
      simpa only [agree_iff_forall, not_forall, exists_prop] using ha
    · rintro ⟨p, hp, q, hq, g, c, d, hc, hd, hcd⟩
      have ha : ¬ Agree cs := fun h => hcd (agree_iff_forall.mp h p hp q hq g c d hc hd)
      obtain ⟨g, c, d, h⟩ := (Assembly.ofCaptures_cases cs).resolve_right ha
      exact ⟨_, by rw [assemble, h]; rfl⟩
  · rw [List.filterMap_append, List.filterMap_cons_none hm, List.filterMap_append]

end

def feudingPairs : List Capture :=
  [ .declaration ⟨"barn", some "shed", some .and⟩,
    .clause ⟨some "lost", some .or, "hay", .equalTo, ["1"]⟩,
    .clause ⟨none, none, "roof", .isNotNull, []⟩,
    .clause ⟨some "barn", some .and, "door", .isNull, []⟩,
    .clause ⟨some "lost", some .and, "hay", .lessThan, ["2"]⟩,
    .declaration ⟨"barn", none, some .or⟩,
    .clause ⟨none, some .or, "roof", .contains, ["a", "b"]⟩,
    .declaration ⟨"root", none, some .and⟩ ]

def namelessMatch : GrammarMatch := ⟨[("value", " "), ("conjunction", "or"), ("type", "group")]⟩

def namedMatch : GrammarMatch := ⟨[("value", "b"), ("conjunction", "And"), ("type", "group")]⟩

theorem assemble_feudingPairs :
    (∀ c ∈ feudingPairs, c.IsNamed) ∧
    (∃ p ∈ feudingPairs, ∃ q ∈ feudingPairs, ∃ g c d,
      p.conjunction? = some (g, c) ∧ q.conjunction? = some (g, d) ∧ c ≠ d) ∧
    assemble feudingPairs = .error (.conjunctionConflict "lost" .or .and) ∧
    Capture.ofMatch? ',' namelessMatch = none ∧
    assemble ([namedMatch, namelessMatch, namedMatch].filterMap (Capture.ofMatch? ',')) =
      assemble ([namedMatch, namedMatch].filterMap (Capture.ofMatch? ',')) := by
  have hn : ∀ c ∈ feudingPairs, c.IsNamed := by decide
  have hm : Capture.ofMatch? ',' namelessMatch = none := by decide
  obtain ⟨hconflict, hfirst, hdropped⟩ := assemble_eq_error hn
  have herror : assemble feudingPairs = .error (.conjunctionConflict "lost" .or .and) :=
    (hfirst _).mpr ⟨.clause ⟨some "lost", some .and, "hay", .lessThan, ["2"]⟩, by decide, "lost",
      .or, .and, rfl, by decide, rfl⟩
  exact ⟨hn, hconflict.mp ⟨_, herror⟩, herror, hm, hdropped ',' namelessMatch [namedMatch]
    [namedMatch] hm⟩

end BracketQuery
