import BracketQuery.Proofs.Expression.Denotation
import BracketQuery.Proofs.Scalar

/-! The order of its values does not show in what a condition holds of. -/

namespace BracketQuery

lemma perm_pair {α : Type} {a b c d : α} (h : [a, b].Perm [c, d]) :
    (c = a ∧ d = b) ∨ (c = b ∧ d = a) := by
  have hc : c ∈ [a, b] := h.mem_iff.mpr List.mem_cons_self
  rcases List.mem_cons.mp hc with rfl | hc
  · exact .inl ⟨rfl, (List.singleton_perm_singleton.mp h.cons_inv).symm⟩
  · obtain rfl := List.mem_singleton.mp hc
    have hd := ((List.Perm.swap a c []).trans h).cons_inv
    exact .inr ⟨rfl, (List.singleton_perm_singleton.mp hd).symm⟩

inductive Comparison.Reordered : Comparison → Comparison → Prop
  | same (c : Comparison) : Reordered c c
  | bounds (a b : String) : Reordered (.range (some (a, b))) (.range (some (b, a)))
  | patterns {ps qs : List Pattern} (h : ps.Perm qs) : Reordered (.pattern ps) (.pattern qs)

namespace Condition

variable {c d : Condition}

lemma test_congr (ho : c.operator = d.operator) (hv : c.values.Perm d.values)
    (hc : c.comparison.Reordered d.comparison) (property : Json.Value) :
    c.test property = d.test property := by
  obtain ⟨_, _, op, vs, comparison⟩ := c
  obtain ⟨_, _, op', ws, comparison'⟩ := d
  obtain rfl : op = op' := ho
  have hv : vs.Perm ws := hv
  cases hc with
  | same comparison =>
    cases comparison with
    | null => rfl
    | range bounds => cases bounds <;> rfl
    | equality => simp only [test, hv.any_eq]
    | membership => simp only [test, hv.any_eq]
    | ordering => simp only [test, hv.any_eq]
    | affix => simp only [test, hv.any_eq]
    | pattern ps => simp only [test, hv.isEmpty_eq]
    | contains =>
      have hcontains : containsAny? property vs = containsAny? property ws := by
        cases property <;> simp only [containsAny?, hv.any_eq]
      simp only [test, hcontains]
  | bounds a b => simp only [test, within?_comm property a b]
  | patterns h => simp only [test, hv.isEmpty_eq, h.any_eq]

lemma holds_congr (hs : c.segments = d.segments) (ho : c.operator = d.operator)
    (hv : c.values.Perm d.values) (hc : c.comparison.Reordered d.comparison)
    (entity : Json.Value) : c.holds entity = d.holds entity := by
  rw [holds, holds, hs]
  cases entity.resolve d.segments with
  | some property => exact test_congr ho hv hc property
  | none =>
    obtain ⟨_, _, op, _, comparison⟩ := c
    obtain ⟨_, _, op', _, comparison'⟩ := d
    obtain rfl : op = op' := ho
    cases hc <;> rfl

end Condition

section

variable {l m : Leaf}

lemma Handler.reordered_bounds (h : l.values.toList.Perm m.values.toList) :
    Comparison.Reordered (.range (bounds? l)) (.range (bounds? m)) := by
  unfold bounds?
  generalize l.values.toList = vs at h
  generalize m.values.toList = ws at h
  match vs, ws, h.length_eq with
  | [], [], _ => exact .same _
  | [_], [_], _ => exact .same _
  | [a, b], [c, d], _ =>
    rcases perm_pair h with ⟨rfl, rfl⟩ | ⟨rfl, rfl⟩
    · exact .same _
    · exact .bounds _ _
  | _ :: _ :: _ :: _, _ :: _ :: _ :: _, _ => exact .same _

lemma Handler.holds_of_perm {h : Handler} (hh : h ∈ standard) (hp : l.path = m.path)
    (ho : l.operator = m.operator) (hv : l.values.toList.Perm m.values.toList)
    (entity : Json.Value) : (h.build l).holds entity = (h.build m).holds entity := by
  have hs : l.segments = m.segments := by rw [Leaf.segments, Leaf.segments, hp]
  have holds {c d : Comparison} (hc : c.Reordered d) :
      (Condition.ofLeaf l c).holds entity = (Condition.ofLeaf m d).holds entity :=
    Condition.holds_congr hs ho hv hc entity
  simp only [standard, List.mem_cons, List.not_mem_nil, or_false] at hh
  rcases hh with rfl | rfl | rfl | rfl | rfl | rfl | rfl | rfl
  · exact holds (.same .equality)
  · exact holds (.same .ordering)
  · exact holds (.same .contains)
  · exact holds (.same .affix)
  · exact holds (.same .membership)
  · exact holds (reordered_bounds hv)
  · exact holds (.same .null)
  · exact holds (.patterns (hv.filterMap _))

lemma Node.denote_leaf_of_perm (hp : l.path = m.path) (ho : l.operator = m.operator)
    (hv : l.values.toList.Perm m.values.toList) (entity : Json.Value) :
    (leaf l).denote .standard entity = (leaf m).denote .standard entity := by
  simp only [denote, Registry.build, ← ho]
  cases hh : Registry.standard.handler? l.operator with
  | none => rfl
  | some h => exact Handler.holds_of_perm (Registry.handler?_ofHandlers hh) hp ho hv entity

end

end BracketQuery
