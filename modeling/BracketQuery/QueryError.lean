import BracketQuery.Filter.Operator

namespace BracketQuery

inductive OptionsFault
  | blankKey (field : String)
  | grammarCharacter (field key : String)
  | sameSortCharacter
  | notANumber (setting text : String)
  | zeroPageLimit (setting : String)
  | notOneCharacter (setting text : String)
  | badPattern
deriving DecidableEq, Repr

inductive QueryError
  | emptyName
  | emptyPath (name : String)
  | conjunctionConflict (group : String) (existing requested : Conjunction)
  | unsupportedOperator (operator : Operator) (supported : List Operator)
  | invalidSortField (token : String)
  | invalidOptions (fault : OptionsFault)
deriving DecidableEq, Repr

def OptionsFault.message : OptionsFault → String
  | blankKey field => field ++ " cannot be empty"
  | grammarCharacter field key => field ++ " cannot contain grammar characters: " ++ key
  | sameSortCharacter => "descending_prefix and sort_delimiter must differ"
  | notANumber setting text => setting ++ " is not a number: " ++ text
  | zeroPageLimit setting => setting ++ " must be at least 1"
  | notOneCharacter setting text =>
    setting ++ " must be a single character, found '" ++ text ++ "'"
  | badPattern => "Invalid grammar pattern"

namespace QueryError

def kind : QueryError → String
  | emptyName => "EmptyName"
  | emptyPath _ => "EmptyPath"
  | conjunctionConflict .. => "ConjunctionConflict"
  | unsupportedOperator .. => "UnsupportedOperator"
  | invalidSortField _ => "InvalidSortField"
  | invalidOptions _ => "InvalidConfig"

def message : QueryError → String
  | emptyName => "Filter node name cannot be empty"
  | emptyPath name => "Filter '" ++ name ++ "' has an empty path"
  | conjunctionConflict group existing requested =>
    "Group '" ++ group ++ "' is declared as both " ++ existing.label ++ " and " ++ requested.label
  | unsupportedOperator operator supported =>
    "Unsupported operator: " ++ operator.name ++ ". Supported operators: " ++
      ", ".intercalate (supported.map Operator.name)
  | invalidSortField token => "Invalid sort field in token '" ++ token ++ "'"
  | invalidOptions fault => "Invalid configuration: " ++ fault.message

end QueryError

end BracketQuery
