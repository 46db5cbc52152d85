import BracketQuery.Condition.Scalar
import BracketQuery.Filter.Tree
import BracketQuery.Pattern.Matching
import BracketQuery.Pattern.Reader
import BracketQuery.Text.Quoted

namespace BracketQuery

inductive Comparison
  | equality
  | ordering
  | contains
  | affix
  | membership
  | range (bounds : Option (String × String))
  | null
  | pattern (patterns : List Pattern)

structure Condition where
  path : String
  segments : List String
  operator : Operator
  values : List String
  comparison : Comparison

def Comparison.family : Comparison → String
  | equality => "equality"
  | ordering => "ordering"
  | contains => "contains"
  | affix => "affix"
  | membership => "membership"
  | range _ => "range"
  | null => "null"
  | pattern _ => "pattern"

namespace Condition

def ofLeaf (l : Leaf) (comparison : Comparison) : Condition :=
  ⟨l.path, l.segments, l.operator, l.values.toList, comparison⟩

def accepts (operator : Operator) (o : Ordering) : Bool :=
  match operator with
  | .lessThan => o == .lt
  | .lessThanOrEqualTo => o != .gt
  | .greaterThan => o == .gt
  | .greaterThanOrEqualTo => o != .lt
  | _ => false

/-- Whether a property lies between two bounds, which may be given in either order. There is no
answer if a bound is of another type or does not compare. -/
def within? (property : Json.Value) (a b : String) : Option Bool := do
  let (value, a) ← Scalar.pair? property a
  let (_, b) ← Scalar.pair? property b
  let o ← a.compare? b
  let (low, high) := if o = .gt then (b, a) else (a, b)
  let l ← value.compare? low
  if l = .lt then return false
  let h ← value.compare? high
  return h != .gt

/-- An item of an array, or a part of a text. There is no answer for objects. -/
def containsAny? (property : Json.Value) (values : List String) : Option Bool :=
  match property with
  | .array items => some (values.any fun v => items.any fun i => Scalar.equals i v)
  | p => (Scalar.text? p).map fun s => values.any fun v => Text.hasInfix v.toList s.toList

def test (c : Condition) (property : Json.Value) : Bool :=
  match c.comparison with
  | .null => c.operator == .isNotNull
  | .equality | .membership =>
    c.values.any (Scalar.equals property) != c.operator.isNegated
  | .ordering =>
    c.values.any fun v => (Scalar.order? property v).any (accepts c.operator)
  | .range none => false
  | .range (some (a, b)) => (within? property a b).any (· != c.operator.isNegated)
  | .contains => (containsAny? property c.values).any (· != c.operator.isNegated)
  | .affix =>
    (Scalar.text? property).any fun s => c.values.any fun v =>
      if c.operator = .startsWith then v.toList.isPrefixOf s.toList
      else v.toList.isSuffixOf s.toList
  | .pattern ps =>
    (Scalar.text? property).any fun s => c.values.isEmpty || ps.any fun p => p.isMatch s

/-- Whether the condition holds of an entity. An absent property only satisfies `isNull`. -/
def holds (c : Condition) (entity : Json.Value) : Bool :=
  match entity.resolve c.segments with
  | some property => c.test property
  | none =>
    match c.comparison with
    | .null => c.operator == .isNull
    | _ => false

def display (c : Condition) : String :=
  if !c.operator.usesValues then c.path ++ " " ++ c.operator.symbol
  else
    c.path ++ " " ++ c.operator.symbol ++ " " ++
      match c.values with
      | [v] => Text.quoted v
      | vs => Text.quotedList vs

end Condition

end BracketQuery
