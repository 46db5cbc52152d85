import BracketQuery.Filter.Assembly
import BracketQuery.Proofs.Ordered

/-! The tables of an assembly, read off the pairs of the query. -/

namespace BracketQuery

def Declaration.parentName (d : Declaration) : String := d.parent.getD rootName

namespace Capture

/-- The first declaration of a group that does not name the group itself says what its parent is. -/
def parentOf? (cs : List Capture) (g : String) : Option String :=
  if g = rootName then none
  else
    ((cs.filterMap declaration?).find? fun d => d.name = g && d.parentName ≠ g).map
      Declaration.parentName

def conjunctionOf (cs : List Capture) (g : String) : Conjunction :=
  ((cs.filterMap conjunction?).lookup g).getD .and

def leafKeys (cs : List Capture) : List LeafKey := (cs.filterMap clause?).map Clause.key

def valuesOf (cs : List Capture) (k : LeafKey) : ValueSet :=
  .ofList (((cs.filterMap clause?).filter fun c => c.key = k).flatMap Clause.values)

def leafOf (cs : List Capture) (k : LeafKey) : Leaf :=
  ⟨k.path, some k.group, k.path, k.operator, valuesOf cs k⟩

def Agree (cs : List Capture) : Prop :=
  ∀ p ∈ cs.filterMap conjunction?, ∀ q ∈ cs.filterMap conjunction?, p.1 = q.1 → p.2 = q.2

def IsNamed : Capture → Prop
  | declaration d =>
    Text.isBlankString d.name = false ∧ ∀ p ∈ d.parent, Text.isBlankString p = false
  | clause c => Text.isBlankString c.path = false ∧ ∀ p ∈ c.parent, Text.isBlankString p = false

lemma parentOf?_root (cs : List Capture) : parentOf? cs rootName = none := by simp [parentOf?]

lemma mem_filterMap_clause? {cs : List Capture} {c : Clause} :
    c ∈ cs.filterMap clause? ↔ clause c ∈ cs := by
  rw [List.mem_filterMap]
  refine ⟨?_, fun h => ⟨_, h, rfl⟩⟩
  rintro ⟨p, hp, hc⟩
  cases p with
  | declaration d => cases hc
  | clause e => exact Option.some.inj hc ▸ hp

lemma mem_filterMap_declaration? {cs : List Capture} {d : Declaration} :
    d ∈ cs.filterMap declaration? ↔ declaration d ∈ cs := by
  rw [List.mem_filterMap]
  refine ⟨?_, fun h => ⟨_, h, rfl⟩⟩
  rintro ⟨p, hp, hd⟩
  cases p with
  | declaration e => exact Option.some.inj hd ▸ hp
  | clause c => cases hd

lemma mem_leafKeys {cs : List Capture} {k : LeafKey} :
    k ∈ leafKeys cs ↔ ∃ c, clause c ∈ cs ∧ c.key = k := by
  simp only [leafKeys, List.mem_map, mem_filterMap_clause?]

lemma mem_valuesOf {cs : List Capture} {k : LeafKey} {v : String} :
    v ∈ (valuesOf cs k).toList ↔ ∃ c, clause c ∈ cs ∧ c.key = k ∧ v ∈ c.values := by
  simp only [valuesOf, ValueSet.mem_toList_ofList, List.mem_flatMap, List.mem_filter,
    mem_filterMap_clause?, decide_eq_true_eq, and_assoc]

end Capture

section

variable {κ α : Type} [DecidableEq κ]

lemma lookup_cons_of_ne {l : List (κ × α)} {k m : κ} (v : α) (h : k ≠ m) :
    ((m, v) :: l).lookup k = l.lookup k := by
  rw [List.lookup_cons, beq_eq_false_iff_ne.mpr h]

lemma mem_of_lookup {l : List (κ × α)} {k : κ} {v : α} (h : l.lookup k = some v) : (k, v) ∈ l := by
  obtain ⟨l₁, l₂, hl, -⟩ := List.lookup_eq_some_iff.mp h
  simp [hl]

lemma lookup_eq_some_iff_mem {l : List (κ × α)} {k : κ} {v : α} (h : (l.map Prod.fst).Nodup) :
    l.lookup k = some v ↔ (k, v) ∈ l := by
  induction l with
  | nil => simp
  | cons p l ih =>
    obtain ⟨m, w⟩ := p
    rw [List.map_cons, List.nodup_cons] at h
    by_cases hk : k = m
    · subst hk
      have hv : (k, v) ∉ l := fun hm => h.1 (List.mem_map.mpr ⟨(k, v), hm, rfl⟩)
      simp [hv, eq_comm]
    · rw [lookup_cons_of_ne w hk, ih h.2]
      simp [hk]

end

namespace Assembly

lemma collectConjunctions_ok (known ps : List (String × Conjunction))
    (h : ∀ p ∈ known ++ ps, ∀ q ∈ known ++ ps, p.1 = q.1 → p.2 = q.2) :
    ∃ ks, collectConjunctions known ps = .ok ks ∧
      ∀ g, ks.lookup g = (known.lookup g).or (ps.lookup g) := by
  induction ps generalizing known with
  | nil => exact ⟨known, rfl, by simp⟩
  | cons p ps ih =>
    obtain ⟨g, c⟩ := p
    rw [collectConjunctions]
    cases hd : known.lookup g with
    | some d =>
      have hdc : d = c := h (g, d) (by simp [mem_of_lookup hd]) (g, c) (by simp) rfl
      obtain ⟨ks, hks, hl⟩ := ih known (fun p hp q hq => h p (by grind) q (by grind))
      refine ⟨ks, by simpa [hdc] using hks, ?_⟩
      intro i
      rw [hl]
      by_cases hi : i = g
      · simp [hi, hd]
      · rw [lookup_cons_of_ne c hi]
    | none =>
      obtain ⟨ks, hks, hl⟩ := ih (known ++ [(g, c)]) (by simpa using h)
      refine ⟨ks, hks, ?_⟩
      intro i
      rw [hl, List.lookup_append, Option.or_assoc]
      by_cases hi : i = g
      · simp [hi]
      · rw [lookup_cons_of_ne c hi, lookup_cons_of_ne c hi, List.lookup_nil, Option.none_or]

lemma collectConjunctions_cases (known ps : List (String × Conjunction)) :
    (∃ g c d, collectConjunctions known ps = .error (.conjunctionConflict g c d)) ∨
      ∃ ks, collectConjunctions known ps = .ok ks ∧
        (∀ g c, known.lookup g = some c → ks.lookup g = some c) ∧
        ∀ p ∈ ps, ks.lookup p.1 = some p.2 := by
  induction ps generalizing known with
  | nil => exact .inr ⟨known, rfl, fun _ _ h => h, by simp⟩
  | cons p ps ih =>
    obtain ⟨g, c⟩ := p
    rw [collectConjunctions]
    split
    · next d hd =>
      split
      · next hdc =>
        rw [hdc] at hd
        refine (ih known).imp_right ?_
        rintro ⟨ks, hks, hl, hp⟩
        exact ⟨ks, hks, hl, List.forall_mem_cons.mpr ⟨hl g c hd, hp⟩⟩
      · exact .inl ⟨g, d, c, rfl⟩
    · next hn =>
      refine (ih (known ++ [(g, c)])).imp_right ?_
      rintro ⟨ks, hks, hl, hp⟩
      refine ⟨ks, hks, fun h d hd => hl h d ?_, List.forall_mem_cons.mpr ⟨hl g c ?_, hp⟩⟩
      · rw [List.lookup_append, hd, Option.some_or]
      · rw [List.lookup_append, hn, Option.none_or, List.lookup_cons_self]

/-- A declaration that is ignored: one of the root, of a group in itself, or of a group that has its
parent already. -/
def IsIgnored (known : List (String × String)) (d : Declaration) : Prop :=
  d.name = rootName ∨ d.name = d.parentName ∨ (known.lookup d.name).isSome = true

instance (known : List (String × String)) (d : Declaration) : Decidable (IsIgnored known d) :=
  inferInstanceAs (Decidable (_ ∨ _ ∨ _ = true))

lemma not_isIgnored {known : List (String × String)} {d : Declaration} :
    ¬ IsIgnored known d ↔
      d.name ≠ rootName ∧ d.name ≠ d.parentName ∧ known.lookup d.name = none := by
  rw [IsIgnored, not_or, not_or, Bool.not_eq_true, Option.isSome_eq_false_iff,
    Option.isNone_iff_eq_none]

lemma collectParents_cons (known : List (String × String)) (d : Declaration)
    (ds : List Declaration) :
    collectParents known (d :: ds) =
      if IsIgnored known d then collectParents known ds
      else collectParents (known ++ [(d.name, d.parentName)]) ds := by
  rw [collectParents]
  exact if_congr (by simp [IsIgnored, Declaration.parentName, or_assoc]) rfl rfl

lemma lookup_collectParents (known : List (String × String)) (ds : List Declaration) (g : String) :
    (collectParents known ds).lookup g =
      (known.lookup g).or
        (if g = rootName then none
          else (ds.find? fun d => d.name = g && d.parentName ≠ g).map Declaration.parentName) := by
  induction ds generalizing known with
  | nil => simp [collectParents]
  | cons d ds ih =>
    rw [collectParents_cons]
    split
    · next hs =>
      by_cases hf : d.name = g ∧ d.parentName ≠ g
      · obtain ⟨rfl, hp⟩ := hf
        rcases hs with hr | hn | hk
        · rw [ih, if_pos hr, if_pos hr]
        · exact absurd hn.symm hp
        · obtain ⟨q, hq⟩ := Option.isSome_iff_exists.mp hk
          simp [ih, hq]
      · rw [ih, List.find?_cons_of_neg (by simpa using hf)]
    · next hs =>
      obtain ⟨hr, hp, hk⟩ := not_isIgnored.mp hs
      rw [ih, List.lookup_append, Option.or_assoc]
      by_cases hg : d.name = g
      · subst hg
        simp [hk, hr, Ne.symm hp]
      · rw [lookup_cons_of_ne _ (Ne.symm hg), List.lookup_nil, Option.none_or]
        simp [hg]

lemma collectParents_of_nodup (known : List (String × String)) (ds : List Declaration)
    (hn : (known.map Prod.fst ++ ds.map Declaration.name).Nodup)
    (hd : ∀ d ∈ ds, d.name ≠ rootName ∧ d.name ≠ d.parentName) :
    collectParents known ds = known ++ ds.map fun d => (d.name, d.parentName) := by
  induction ds generalizing known with
  | nil => simp [collectParents]
  | cons d ds ih =>
    obtain ⟨hr, hp⟩ := hd d (by simp)
    have hk : known.lookup d.name = none := by
      rw [List.lookup_eq_none_iff]
      intro p hm
      have hne := (List.nodup_append.mp hn).2.2 p.1 (List.mem_map_of_mem hm) d.name (by simp)
      simpa using Ne.symm hne
    rw [collectParents_cons, if_neg (not_isIgnored.mpr ⟨hr, hp, hk⟩),
      ih _ (by simpa using hn) fun e he => hd e (by simp [he])]
    simp

lemma nodup_collectParents (known : List (String × String)) (ds : List Declaration)
    (h : (known.map Prod.fst).Nodup) : ((collectParents known ds).map Prod.fst).Nodup := by
  induction ds generalizing known with
  | nil => exact h
  | cons d ds ih =>
    rw [collectParents_cons]
    split
    · exact ih known h
    · next hs =>
      apply ih
      rw [List.map_append, List.nodup_append]
      refine ⟨h, by simp, ?_⟩
      intro m hm n hn
      obtain ⟨p, hp, rfl⟩ := List.mem_map.mp hm
      have hb := List.lookup_eq_none_iff.mp (not_isIgnored.mp hs).2.2 p hp
      simp only [List.map_cons, List.map_nil, List.mem_singleton] at hn
      rw [hn]
      exact Ne.symm (by simpa using hb)

lemma collectParents_append (known : List (String × String)) (ds es : List Declaration) :
    collectParents known (ds ++ es) = collectParents (collectParents known ds) es := by
  induction ds generalizing known with
  | nil => rfl
  | cons d ds ih =>
    rw [List.cons_append, collectParents_cons, collectParents_cons]
    split <;> exact ih _

lemma mem_collectParents {known : List (String × String)} {ds : List Declaration}
    {p : String × String} (h : p ∈ collectParents known ds) :
    p ∈ known ∨ ∃ d ∈ ds, d.name ≠ rootName ∧ p = (d.name, d.parentName) := by
  induction ds generalizing known with
  | nil => exact .inl h
  | cons d ds ih =>
    rw [collectParents_cons] at h
    split at h
    · refine (ih h).imp_right ?_
      rintro ⟨e, he, hp⟩
      exact ⟨e, List.mem_cons_of_mem d he, hp⟩
    · next hs =>
      rcases ih h with hk | ⟨e, he, hp⟩
      · refine (List.mem_append.mp hk).imp_right fun hk => ?_
        exact ⟨d, List.mem_cons_self, (not_isIgnored.mp hs).1, List.mem_singleton.mp hk⟩
      · exact .inr ⟨e, List.mem_cons_of_mem d he, hp⟩

structure Holds (a : Assembly) (cs : List Capture) : Prop where
  conjunction : ∀ g, (a.conjunctions.lookup g).getD .and = Capture.conjunctionOf cs g
  parents : a.parents = collectParents [] (cs.filterMap Capture.declaration?)
  leaves : a.leaves = (distinctItems (Capture.leafKeys cs)).map fun k => (k, Capture.valuesOf cs k)

lemma Holds.parent {a : Assembly} {cs : List Capture} (h : a.Holds cs) (g : String) :
    a.parents.lookup g = Capture.parentOf? cs g := by
  rw [h.parents, lookup_collectParents]
  rfl

lemma Holds.nodup {a : Assembly} {cs : List Capture} (h : a.Holds cs) :
    (a.parents.map Prod.fst).Nodup := by
  rw [h.parents]
  exact nodup_collectParents [] _ (by simp)

lemma collectLeaves_eq (cs : List Clause) :
    collectLeaves cs = (distinctItems (cs.map Clause.key)).map fun k =>
      (k, .ofList ((cs.filter fun c => c.key = k).flatMap Clause.values)) := by
  rw [collectLeaves, groupBy_eq, List.map_map]
  simp [Function.comp_def]

theorem ofCaptures_holds {cs : List Capture} (h : Capture.Agree cs) :
    ∃ a, ofCaptures cs = .ok a ∧ a.Holds cs := by
  obtain ⟨ks, hks, hl⟩ := collectConjunctions_ok [] (cs.filterMap Capture.conjunction?) h
  refine ⟨_, by rw [ofCaptures, hks]; rfl, ?_, rfl, collectLeaves_eq _⟩
  intro g
  simp [hl, Capture.conjunctionOf]

lemma ofCaptures_cases (cs : List Capture) :
    (∃ g c d, ofCaptures cs = .error (.conjunctionConflict g c d)) ∨ Capture.Agree cs := by
  rcases collectConjunctions_cases [] (cs.filterMap Capture.conjunction?) with
    ⟨g, c, d, h⟩ | ⟨ks, -, -, h⟩
  · exact .inl ⟨g, c, d, by rw [ofCaptures, h]; rfl⟩
  · refine .inr fun p hp q hq he => ?_
    have hq' := h q hq
    rw [← he, h p hp] at hq'
    exact Option.some.inj hq'

end Assembly

lemma Capture.agree_of_assemble {cs : List Capture} {s : Option Group} (h : assemble cs = .ok s) :
    Agree cs := by
  rcases Assembly.ofCaptures_cases cs with ⟨g, c, d, hc⟩ | ha
  · rw [assemble, hc] at h
    cases h
  · exact ha

end BracketQuery
