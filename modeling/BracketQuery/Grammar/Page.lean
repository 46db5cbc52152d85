import BracketQuery.Grammar.Filter

/-! The grammar of page pairs, such as `page[limit]=10`. -/

namespace BracketQuery.PageGrammar

open Pattern

def property : String := "property"

def value : String := "value"

def captures : List String := [property, value]

def properties : List String := ["after", "before", "cursor", "limit", "offset"]

def pattern (o : Options) : Pattern :=
  join
    [ FilterGrammar.pairStart,
      word o.pageKey.toList,
      FilterGrammar.bracketed (named property (FilterGrammar.anyWord properties)),
      word ['='],
      named value (star (chars FilterGrammar.valueChars)) ]

def text (o : Options) : String :=
  "(?:^|&)" ++ Grammar.escapeText o.pageKey ++
  "\\[(?P<" ++ property ++ ">" ++ "|".intercalate properties ++ ")\\]=(?P<" ++ value ++ ">[^&]*)"

def ofOptions (o : Options) : Except QueryError Grammar :=
  Grammar.ofPattern (text o) (pattern o) o.matchBudget

example : (Pattern.read? true (text .standard)).map steps = some (pattern .standard).steps := by
  decide +kernel

end BracketQuery.PageGrammar
