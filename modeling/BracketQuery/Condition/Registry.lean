import BracketQuery.Condition

namespace BracketQuery

structure Handler where
  family : String
  claims : Operator → Bool
  build : Leaf → Condition

namespace Handler

def ofComparison (family : String) (operators : List Operator) (comparison : Leaf → Comparison) :
    Handler :=
  ⟨family, operators.contains, fun l => .ofLeaf l (comparison l)⟩

/-- Two distinct values are the bounds of a range; any other number of them makes none. -/
def bounds? (l : Leaf) : Option (String × String) :=
  match l.values.toList with
  | [a, b] => some (a, b)
  | _ => none

def standard : List Handler :=
  [ ofComparison "equality" [.equalTo, .notEqualTo] fun _ => .equality,
    ofComparison "ordering"
      [.lessThan, .lessThanOrEqualTo, .greaterThan, .greaterThanOrEqualTo] fun _ => .ordering,
    ofComparison "contains" [.contains, .notContains] fun _ => .contains,
    ofComparison "affix" [.startsWith, .endsWith] fun _ => .affix,
    ofComparison "membership" [.isIn, .notIn] fun _ => .membership,
    ofComparison "range" [.between, .notBetween] fun l => .range (bounds? l),
    ofComparison "null" [.isNull, .isNotNull] fun _ => .null,
    ofComparison "pattern" [.regex] fun l =>
      .pattern (l.values.toList.filterMap (Pattern.read? false)) ]

end Handler

/-- An operator that two handlers claim; the later one takes it. -/
structure Overlap where
  operator : Operator
  previous : String
  next : String
deriving DecidableEq, Repr

structure Registry where
  handlers : List (Operator × Handler)
  overlaps : List Overlap

namespace Registry

def empty : Registry := ⟨[], []⟩

def handler? (r : Registry) (o : Operator) : Option Handler := r.handlers.lookup o

def claim (o : Operator) (r : Registry) (h : Handler) : Registry :=
  match r.handler? o with
  | none => ⟨(o, h) :: r.handlers, r.overlaps⟩
  | some previous => ⟨(o, h) :: r.handlers, r.overlaps ++ [⟨o, previous.family, h.family⟩]⟩

def ofHandlers (hs : List Handler) : Registry :=
  Operator.all.foldl (fun r o => (hs.filter fun h => h.claims o).foldl (claim o) r) empty

def standard : Registry := ofHandlers Handler.standard

def supported (r : Registry) : List Operator := Operator.all.filter fun o => (r.handler? o).isSome

def unsupported (r : Registry) : List Operator := Operator.all.filter fun o => (r.handler? o).isNone

def build (r : Registry) (l : Leaf) : Except QueryError Condition :=
  match r.handler? l.operator with
  | some h => .ok (h.build l)
  | none => .error (.unsupportedOperator l.operator r.supported)

end Registry

end BracketQuery
