import BracketQuery.Proofs.Expression.Denotation

/-! What the condition of a leaf compares, told by its operator alone. -/

namespace BracketQuery

def Leaf.comparison (l : Leaf) : Comparison :=
  match l.operator with
  | .none | .equalTo | .notEqualTo => .equality
  | .lessThan | .lessThanOrEqualTo | .greaterThan | .greaterThanOrEqualTo => .ordering
  | .between | .notBetween => .range (Handler.bounds? l)
  | .contains | .notContains => .contains
  | .startsWith | .endsWith => .affix
  | .isIn | .notIn => .membership
  | .isNull | .isNotNull => .null
  | .regex => .pattern (l.values.toList.filterMap (Pattern.read? false))

lemma Registry.build_standard {l : Leaf} (h : l.operator ≠ .none) :
    Registry.standard.build l = .ok (.ofLeaf l l.comparison) := by
  obtain ⟨name, groupName, path, operator, values⟩ := l
  cases operator
  case none => exact absurd rfl h
  all_goals rfl

namespace Leaf

def withOperator (l : Leaf) (o : Operator) : Leaf := { l with operator := o }

def holds (l : Leaf) (entity : Json.Value) : Bool := (Node.leaf l).denote .standard entity

variable {l : Leaf} {entity property : Json.Value}

lemma holds_eq (h : l.operator ≠ .none) :
    l.holds entity = (Condition.ofLeaf l l.comparison).holds entity := by
  rw [holds, Node.denote, Registry.build_standard h]

lemma holds_of_present (h : l.operator ≠ .none) (hp : entity.resolve l.segments = some property) :
    l.holds entity = (Condition.ofLeaf l l.comparison).test property := by
  have hs : (Condition.ofLeaf l l.comparison).segments = l.segments := rfl
  rw [holds_eq h, Condition.holds, hs, hp]

lemma holds_of_absent (h : l.operator ≠ .none) (hp : entity.resolve l.segments = none) :
    l.holds entity = (l.operator == .isNull) := by
  have hs : (Condition.ofLeaf l l.comparison).segments = l.segments := rfl
  rw [holds_eq h, Condition.holds, hs, hp]
  simp only [Condition.ofLeaf, comparison]
  cases l.operator <;> rfl

lemma holds_withOperator_of_absent (hp : entity.resolve l.segments = none) (o : Operator)
    (h : o ≠ .none) : (l.withOperator o).holds entity = (o == .isNull) :=
  holds_of_absent h hp

end Leaf

end BracketQuery
