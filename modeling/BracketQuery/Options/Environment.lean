import BracketQuery.Options
import BracketQuery.Text.Numeral

namespace BracketQuery.Options

abbrev Environment := String → Option String

namespace Environment

/-- A variable with an empty value counts as unset. -/
def text? (env : Environment) (name : String) : Option String := (env name).filter (· != "")

def char? (env : Environment) (name : String) : Except QueryError (Option Char) :=
  match env.text? name with
  | none => .ok none
  | some s =>
    match s.toList with
    | [c] => .ok (some c)
    | _ => .error (.invalidOptions (.notOneCharacter name s))

def number? (env : Environment) (bound : Nat) (name : String) : Except QueryError (Option Nat) :=
  match env.text? name with
  | none => .ok none
  | some s =>
    match Text.readNat? bound s.toList with
    | some n => .ok (some n)
    | none => .error (.invalidOptions (.notANumber name s))

end Environment

def ofEnvironment (env : Environment) : Except QueryError Options := do
  let o := standard
  let filterKey := (env.text? "QUERY_FILTER_KEY").getD o.filterKey
  let groupKeyword := (env.text? "QUERY_FILTER_GROUP_KEYWORD").getD o.groupKeyword
  let pageKey := (env.text? "QUERY_PAGE_KEY").getD o.pageKey
  let valueDelimiter ← env.char? "QUERY_VALUE_DELIMITER"
  let sortDelimiter ← env.char? "QUERY_SORT_DELIMITER"
  let descendingMark ← env.char? "QUERY_SORT_DESCENDING_PREFIX"
  let matchBudget ← env.number? Text.word64Top "QUERY_MATCH_TIMEOUT_MS"
  let maxPageLimit ← env.number? Text.word32Top "QUERY_MAX_PAGE_LIMIT"
  if maxPageLimit = some 0 then
    .error (.invalidOptions (.zeroPageLimit "QUERY_MAX_PAGE_LIMIT"))
  let result : Options :=
    ⟨filterKey, groupKeyword, pageKey, valueDelimiter.getD o.valueDelimiter,
      sortDelimiter.getD o.sortDelimiter, descendingMark.getD o.descendingMark,
      matchBudget.getD o.matchBudget, (maxPageLimit.map UInt32.ofNat).getD o.maxPageLimit⟩
  result.validate
  return result

end BracketQuery.Options
