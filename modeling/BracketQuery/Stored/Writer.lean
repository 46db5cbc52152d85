import BracketQuery.Expression
import BracketQuery.Page
import BracketQuery.Sort

/-! The JSON form of filter trees, expressions, sort keys and windows. -/

namespace BracketQuery

open Json

def Json.Value.ofStrings (ss : List String) : Value := .array (ss.map .string)

def Json.Value.ofOption (s : Option String) : Value :=
  match s with
  | none => .null
  | some s => .string s

def Json.Value.ofNat (n : Nat) : Value := .number (.integer n)

def Leaf.toValue (l : Leaf) : Value :=
  .object
    [ ("name", .string l.name), ("group_name", .ofOption l.groupName), ("path", .string l.path),
      ("operator", .string l.operator.name), ("values", .ofStrings l.values.toList) ]

def Heading.toValue (h : Heading) (children : List Value) : Value :=
  .object
    [ ("name", .string h.name), ("group_name", .ofOption h.groupName),
      ("conjunction", .string h.conjunction.name), ("children", .array children) ]

mutual

def Node.toValue : Node → Value
  | .leaf l => .object [("Leaf", l.toValue)]
  | .group h cs => .object [("Group", h.toValue (Node.toValues cs))]

def Node.toValues : List Node → List Value
  | [] => []
  | c :: cs => c.toValue :: Node.toValues cs

end

def Group.toValue (g : Group) : Value := g.toHeading.toValue (Node.toValues g.children)

def SortDirection.name : SortDirection → String
  | ascending => "Ascending"
  | descending => "Descending"

def SortKey.toValue (k : SortKey) : Value :=
  .object
    [ ("field", .string k.field), ("original_token", .string k.token),
      ("direction", .string k.direction.name) ]

def Page.toValue (p : Page) : Value :=
  .object
    [ ("after", .ofOption p.after), ("before", .ofOption p.before),
      ("offset", .ofNat p.offset.toNat), ("limit", .ofNat p.limit.toNat) ]

def Comparison.toValue (c : Comparison) : Value :=
  match c with
  | .range bounds =>
    .object
      [ ("family", .string c.family),
        ("bounds", match bounds with
          | none => .null
          | some (a, b) => .ofStrings [a, b]) ]
  | _ => .object [("family", .string c.family)]

def Condition.members (c : Condition) : List (String × Value) :=
  [ ("path", .string c.path), ("operator", .string c.operator.name),
    ("values", .ofStrings c.values), ("comparison", c.comparison.toValue) ]

def Condition.toValue (c : Condition) : Value := .object c.members

mutual

def Expression.toValue : Expression → Value
  | .constant b => .object [("constant", .bool b)]
  | .condition c => .object [("condition", c.toValue)]
  | .all es => .object [("and", .array (Expression.toValues es))]
  | .any es => .object [("or", .array (Expression.toValues es))]

def Expression.toValues : List Expression → List Value
  | [] => []
  | e :: es => e.toValue :: Expression.toValues es

end

end BracketQuery
