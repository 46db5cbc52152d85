import BracketQuery.Text.CaseFolding

namespace BracketQuery

inductive Operator
  | none
  | equalTo
  | notEqualTo
  | lessThan
  | lessThanOrEqualTo
  | greaterThan
  | greaterThanOrEqualTo
  | between
  | notBetween
  | contains
  | notContains
  | startsWith
  | endsWith
  | isIn
  | notIn
  | isNull
  | isNotNull
  | regex
deriving DecidableEq, Repr, Inhabited

namespace Operator

def all : List Operator :=
  [none, equalTo, notEqualTo, lessThan, lessThanOrEqualTo, greaterThan, greaterThanOrEqualTo,
    between, notBetween, contains, notContains, startsWith, endsWith, isIn, notIn, isNull,
    isNotNull, regex]

def name : Operator → String
  | none => "None"
  | equalTo => "EqualTo"
  | notEqualTo => "NotEqualTo"
  | lessThan => "LessThan"
  | lessThanOrEqualTo => "LessThanOrEqualTo"
  | greaterThan => "GreaterThan"
  | greaterThanOrEqualTo => "GreaterThanOrEqualTo"
  | between => "Between"
  | notBetween => "NotBetween"
  | contains => "Contains"
  | notContains => "NotContains"
  | startsWith => "StartsWith"
  | endsWith => "EndsWith"
  | isIn => "In"
  | notIn => "NotIn"
  | isNull => "IsNull"
  | isNotNull => "IsNotNull"
  | regex => "Regex"

def symbol : Operator → String
  | none => "?"
  | equalTo => "=="
  | notEqualTo => "!="
  | lessThan => "<"
  | lessThanOrEqualTo => "<="
  | greaterThan => ">"
  | greaterThanOrEqualTo => ">="
  | between => "between"
  | notBetween => "not between"
  | contains => "contains"
  | notContains => "not contains"
  | startsWith => "starts with"
  | endsWith => "ends with"
  | isIn => "in"
  | notIn => "not in"
  | isNull => "is null"
  | isNotNull => "is not null"
  | regex => "matches"

def tokens : List (String × Operator) :=
  [ ("eq", equalTo), ("ne", notEqualTo), ("lt", lessThan), ("le", lessThanOrEqualTo),
    ("lte", lessThanOrEqualTo), ("gt", greaterThan), ("ge", greaterThanOrEqualTo),
    ("gte", greaterThanOrEqualTo), ("between", between), ("notbetween", notBetween),
    ("contains", contains), ("notcontains", notContains), ("startswith", startsWith),
    ("endswith", endsWith), ("in", isIn), ("notin", notIn), ("null", isNull),
    ("notnull", isNotNull), ("regex", regex) ]

def ofToken? (token : String) : Option Operator :=
  (tokens.find? fun p => Text.spells token p.1).map Prod.snd

def ofName? (s : String) : Option Operator := all.find? fun o => o.name == s

def usesValues (o : Operator) : Bool := o != isNull && o != isNotNull

/-- The operator of a condition that names none. -/
def standard : Operator := equalTo

def isNegated (o : Operator) : Bool :=
  o == notEqualTo || o == notIn || o == notContains || o == notBetween

theorem mem_all (o : Operator) : o ∈ all := by cases o <;> decide

theorem ofName?_name (o : Operator) : ofName? o.name = some o := by cases o <;> decide

end Operator

inductive Conjunction
  | and
  | or
deriving DecidableEq, Repr, Inhabited

namespace Conjunction

def name : Conjunction → String
  | and => "And"
  | or => "Or"

def label : Conjunction → String
  | and => "AND"
  | or => "OR"

def tokens : List (String × Conjunction) := [("and", and), ("or", or)]

def ofToken? (token : String) : Option Conjunction :=
  (tokens.find? fun p => Text.spells token p.1).map Prod.snd

def ofName? (s : String) : Option Conjunction := [and, or].find? fun c => c.name == s

theorem ofName?_name (c : Conjunction) : ofName? c.name = some c := by cases c <;> decide

end Conjunction

end BracketQuery
