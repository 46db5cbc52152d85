import BracketQuery.Grammar

/-!
The grammar of filter pairs. One pattern covers group declarations, such as
`filter[group][$or][parent][0]=child`, and conditions, such as
`filter[$and][0][address][city][$eq]=Berlin`.
-/

namespace BracketQuery.FilterGrammar

open Pattern

def kind : String := "type"

def conjunction : String := "conjunction"

def memberOf : String := "memberOf"

def groupIndex : String := "groupIndex"

def path : String := "path"

def operator : String := "operator"

def value : String := "value"

def captures : List String := [kind, conjunction, memberOf, groupIndex, path, operator, value]

/-- The tokens after `[$`, longer ones first. -/
def operatorTokens : List String :=
  ["notbetween", "notcontains", "startswith", "endswith", "notnull", "between", "contains",
    "notin", "regex", "null", "lte", "gte", "eq", "ne", "lt", "le", "gt", "ge", "in"]

def conjunctionTokens : List String := ["and", "or"]

def pairStart : Pattern := either (look .textStart) (word ['&'])

def anyWord (ws : List String) : Pattern := oneOf (ws.map fun w => word w.toList)

/-- The characters of a name or a path segment: all but `[`, `]` and `$`. -/
def segmentChars : CharSet := ⟨[(0, 0x23), (0x25, 0x5A), (0x5C, 0x5C), (0x5E, CharSet.top)]⟩

/-- The characters that a group name may begin with: the letters from a to z, with all characters
that differ from one only in case, and `_`. -/
def nameStart : CharSet :=
  ⟨[(0x41, 0x5A), (0x5F, 0x5F), (0x61, 0x7A), (0x17F, 0x17F), (0x212A, 0x212A)]⟩

/-- The characters of a value: all but `&`. -/
def valueChars : CharSet := ⟨[(0, 0x25), (0x27, CharSet.top)]⟩

def bracketed (p : Pattern) : Pattern := join [word ['['], p, word [']']]

def marked (p : Pattern) : Pattern := join [word ['[', '$'], p, word [']']]

def pattern (o : Options) : Pattern :=
  join
    [ pairStart,
      word o.filterKey.toList,
      optional (bracketed (named kind (word o.groupKeyword.toList))),
      optional (marked (named conjunction (anyWord conjunctionTokens))),
      optional (bracketed (named memberOf (seq (chars nameStart) (star (chars segmentChars))))),
      optional (bracketed (named groupIndex (plus (chars Text.decimalDigits)))),
      named path (star (bracketed (plus (chars segmentChars)))),
      optional (marked (named operator (anyWord operatorTokens))),
      word ['='],
      named value (star (chars valueChars)) ]

def text (o : Options) : String :=
  "(?:^|&)" ++ Grammar.escapeText o.filterKey ++
  "(?:\\[(?P<" ++ kind ++ ">" ++ Grammar.escapeText o.groupKeyword ++ ")\\])?" ++
  "(?:\\[\\$(?P<" ++ conjunction ++ ">" ++ "|".intercalate conjunctionTokens ++ ")\\])?" ++
  "(?:\\[(?P<" ++ memberOf ++ ">[a-z_][^\\[\\]$]*)\\])?" ++
  "(?:\\[(?P<" ++ groupIndex ++ ">\\d+)\\])?" ++
  "(?P<" ++ path ++ ">(?:\\[[^\\[\\]$]+\\])*)" ++
  "(?:\\[\\$(?P<" ++ operator ++ ">" ++ "|".intercalate operatorTokens ++ ")\\])?" ++
  "=(?P<" ++ value ++ ">[^&]*)"

def ofOptions (o : Options) : Except QueryError Grammar :=
  Grammar.ofPattern (text o) (pattern o) o.matchBudget

example : (Pattern.read? true (text .standard)).map steps = some (pattern .standard).steps := by
  decide +kernel

end BracketQuery.FilterGrammar
