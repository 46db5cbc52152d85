import BracketQuery.Expression
import BracketQuery.Proofs.Condition.Registry
import Mathlib.Data.List.Forall2

/-! Compiled filters hold of the entities that their trees denote, whatever shape they are given. -/

namespace BracketQuery

mutual

/-- Whether a tree is true of an entity, read off the tree itself. -/
def Node.denote (r : Registry) (entity : Json.Value) : Node → Bool
  | .leaf l =>
    match r.build l with
    | .ok c => c.holds entity
    | .error _ => false
  | .group h cs =>
    cs.isEmpty ||
      match h.conjunction with
      | .and => Node.denoteAll r entity cs
      | .or => Node.denoteAny r entity cs

def Node.denoteAll (r : Registry) (entity : Json.Value) : List Node → Bool
  | [] => true
  | c :: cs => Node.denote r entity c && Node.denoteAll r entity cs

def Node.denoteAny (r : Registry) (entity : Json.Value) : List Node → Bool
  | [] => false
  | c :: cs => Node.denote r entity c || Node.denoteAny r entity cs

end

lemma all_any_congr {α : Type} {f : α → Bool} {xs ys : List α} (hxy : ∀ x ∈ xs, ∃ y ∈ ys, f y = f x)
    (hyx : ∀ y ∈ ys, ∃ x ∈ xs, f x = f y) : xs.all f = ys.all f ∧ xs.any f = ys.any f := by
  constructor
  · rw [Bool.eq_iff_iff, List.all_eq_true, List.all_eq_true]
    constructor
    · intro h y hy
      obtain ⟨x, hx, he⟩ := hyx y hy
      rw [← he, h x hx]
    · intro h x hx
      obtain ⟨y, hy, he⟩ := hxy x hx
      rw [← he, h y hy]
  · rw [Bool.eq_iff_iff, List.any_eq_true, List.any_eq_true]
    constructor
    · rintro ⟨x, hx, h⟩
      obtain ⟨y, hy, he⟩ := hxy x hx
      exact ⟨y, hy, he.trans h⟩
    · rintro ⟨y, hy, h⟩
      obtain ⟨x, hx, he⟩ := hyx y hy
      exact ⟨x, hx, he.trans h⟩

namespace Node

lemma denoteAll_eq_all (r : Registry) (entity : Json.Value) (cs : List Node) :
    denoteAll r entity cs = cs.all (denote r entity) := by
  induction cs with
  | nil => rfl
  | cons c cs ih => simp [denoteAll, ih]

lemma denoteAny_eq_any (r : Registry) (entity : Json.Value) (cs : List Node) :
    denoteAny r entity cs = cs.any (denote r entity) := by
  induction cs with
  | nil => rfl
  | cons c cs ih => simp [denoteAny, ih]

lemma denote_group {r : Registry} {entity : Json.Value} {head head' : Heading} {xs ys : List Node}
    (hc : head.conjunction = head'.conjunction)
    (hxy : ∀ x ∈ xs, ∃ y ∈ ys, y.denote r entity = x.denote r entity)
    (hyx : ∀ y ∈ ys, ∃ x ∈ xs, x.denote r entity = y.denote r entity) :
    (group head xs).denote r entity = (group head' ys).denote r entity := by
  obtain ⟨hall, hany⟩ := all_any_congr hxy hyx
  have hempty : xs.isEmpty = ys.isEmpty := by
    rw [Bool.eq_iff_iff, List.isEmpty_iff, List.isEmpty_iff, List.eq_nil_iff_forall_not_mem,
      List.eq_nil_iff_forall_not_mem]
    constructor
    · intro h y hy
      obtain ⟨x, hx, -⟩ := hyx y hy
      exact h x hx
    · intro h x hx
      obtain ⟨y, hy, -⟩ := hxy x hx
      exact h y hy
  rw [denote, denote, hempty, ← hc, denoteAll_eq_all, denoteAll_eq_all, denoteAny_eq_any,
    denoteAny_eq_any, hall, hany]

end Node

namespace Expression

lemma conditions_combine (k : Conjunction) (es : List Expression) :
    (combine k es).conditions = conditionsIn es := by
  match es with
  | [] => rfl
  | [e] => simp [combine, conditionsIn]
  | e :: f :: es => cases k <;> rfl

lemma holds_combine (entity : Json.Value) (k : Conjunction) (es : List Expression) :
    (combine k es).holds entity =
      (es.isEmpty || match k with
        | .and => es.all (holds entity)
        | .or => es.any (holds entity)) := by
  match es with
  | [] => rfl
  | [e] => cases k <;> simp [combine]
  | e :: f :: es => cases k <;> simp [combine, holds, holdAll_eq_all, holdAny_eq_any]

end Expression

namespace Registry

lemma mem_supported {r : Registry} {o : Operator} :
    o ∈ r.supported ↔ ∃ h, r.handler? o = some h := by
  simp [supported, Operator.mem_all, Option.isSome_iff_exists]

lemma build_of_supported {r : Registry} {l : Leaf} (h : l.operator ∈ r.supported) :
    ∃ c, r.build l = .ok c := by
  obtain ⟨handler, hh⟩ := mem_supported.mp h
  exact ⟨handler.build l, by simp [build, hh]⟩

end Registry

def Condition.Carries (c : Condition) (l : Leaf) : Prop :=
  c.path = l.path ∧ c.operator = l.operator ∧ c.values = l.values.toList

lemma Handler.carries_standard {h : Handler} (hh : h ∈ Handler.standard) (l : Leaf) :
    (h.build l).Carries l := by
  simp only [Handler.standard, List.mem_cons, List.not_mem_nil, or_false] at hh
  rcases hh with rfl | rfl | rfl | rfl | rfl | rfl | rfl | rfl <;> exact ⟨rfl, rfl, rfl⟩

lemma Registry.carries_standard {l : Leaf} {c : Condition}
    (h : Registry.standard.build l = .ok c) : c.Carries l := by
  unfold Registry.build at h
  split at h
  · next handler hh =>
    cases h
    exact Handler.carries_standard (Registry.handler?_ofHandlers hh) l
  · cases h

mutual

lemma Node.compile_ok (r : Registry) : ∀ n : Node, (∀ l ∈ n.leaves, l.operator ∈ r.supported) →
    ∃ e, n.compile r = .ok e ∧ (∀ entity, e.holds entity = n.denote r entity) ∧
      List.Forall₂ (fun l c => r.build l = .ok c) n.leaves e.conditions
  | .leaf l, h => by
    obtain ⟨c, hc⟩ := Registry.build_of_supported (h l (by simp [leaves]))
    refine ⟨.condition c, by simp [Node.compile, hc, Except.map], ?_, ?_⟩
    · intro entity
      simp [Expression.holds, denote, hc]
    · simpa [leaves, Expression.conditions] using hc
  | .group head cs, h => by
    obtain ⟨es, hes, hd, hl⟩ := Node.compileAll_ok r cs (by simpa only [leaves] using h)
    refine ⟨.combine head.conjunction es, by simp [Node.compile, hes, Except.map], ?_, ?_⟩
    · intro entity
      have hn : es.isEmpty = cs.isEmpty := by
        have hlen := congrArg List.length (hd entity)
        simp only [List.length_map] at hlen
        cases es <;> cases cs <;> simp_all
      rw [Expression.holds_combine, denote, hn]
      congr 1
      cases head.conjunction
      · simpa [denoteAll_eq_all, List.all_map] using congrArg (List.all · id) (hd entity)
      · simpa [denoteAny_eq_any, List.any_map] using congrArg (List.any · id) (hd entity)
    · simpa only [leaves, Expression.conditions_combine] using hl

lemma Node.compileAll_ok (r : Registry) : ∀ cs : List Node,
    (∀ l ∈ Node.leavesIn cs, l.operator ∈ r.supported) →
    ∃ es, Node.compileAll r cs = .ok es ∧
      (∀ entity, es.map (Expression.holds entity) = cs.map (Node.denote r entity)) ∧
      List.Forall₂ (fun l c => r.build l = .ok c) (Node.leavesIn cs) (Expression.conditionsIn es)
  | [], _ => ⟨[], rfl, by simp, by simp [leavesIn, Expression.conditionsIn]⟩
  | c :: cs, h => by
    simp only [leavesIn, List.mem_append] at h
    obtain ⟨e, he, hd, hl⟩ := Node.compile_ok r c (fun l hl => h l (.inl hl))
    obtain ⟨es, hes, hds, hls⟩ := Node.compileAll_ok r cs (fun l hl => h l (.inr hl))
    refine ⟨e :: es, by simp [Node.compileAll, he, hes, Except.map], ?_, ?_⟩
    · intro entity
      simp [hd, hds]
    · exact List.rel_append hl hls

end

/-- A filter whose operators are all supported compiles; what it compiles to holds of the entities
that the tree denotes, and its conditions are those of the leaves in their order. -/
theorem compileFilter_denote (g : Group)
    (h : ∀ l ∈ g.toNode.leaves, l.operator ∈ Registry.standard.supported) :
    ∃ e, compileFilter .standard (some g) = .ok e ∧
      (∀ entity, e.holds entity = g.toNode.denote .standard entity) ∧
      List.Forall₂ (fun l c => Registry.standard.build l = .ok c ∧ c.Carries l)
        g.toNode.leaves e.conditions := by
  obtain ⟨e, he, hd, hl⟩ := g.toNode.compile_ok .standard h
  refine ⟨e, he, hd, ?_⟩
  apply hl.imp
  intro l c hc
  exact ⟨hc, Registry.carries_standard hc⟩

def unevenGroup : Group :=
  let price : Leaf := ⟨"price", some "root", "price", .greaterThan, .ofList ["10"]⟩
  let tag : Leaf := ⟨"tag", some "g", "tag", .isIn, .ofList ["a", "b"]⟩
  ⟨⟨"root", none, .and⟩,
    [.leaf price, .group ⟨"g", some "root", .or⟩ [.leaf tag], .leaf price,
      .group ⟨"h", some "root", .or⟩ []]⟩

theorem compileFilter_unevenGroup :
    (∀ l ∈ unevenGroup.toNode.leaves, l.operator ∈ Registry.standard.supported) ∧
    ∃ e, compileFilter .standard (some unevenGroup) = .ok e ∧
      (∀ entity, e.holds entity = unevenGroup.toNode.denote .standard entity) ∧
      List.Forall₂ (fun l c => Registry.standard.build l = .ok c ∧ c.Carries l)
        unevenGroup.toNode.leaves e.conditions :=
  have h : ∀ l ∈ unevenGroup.toNode.leaves, l.operator ∈ Registry.standard.supported := by decide
  ⟨h, compileFilter_denote unevenGroup h⟩

end BracketQuery
