import BracketQuery.Options
import BracketQuery.Ordered
import BracketQuery.Text.Split

namespace BracketQuery

inductive SortDirection
  | ascending
  | descending
deriving DecidableEq, Repr, Inhabited

def SortDirection.label : SortDirection → String
  | ascending => "asc"
  | descending => "desc"

structure SortKey where
  field : String
  token : String
  direction : SortDirection
deriving DecidableEq, Repr, Inhabited

def SortKey.isDescending (k : SortKey) : Bool := k.direction == .descending

structure SortParser where
  delimiter : Char
  descendingMark : Char
deriving DecidableEq, Repr

namespace SortParser

def standard : SortParser := ⟨',', '-'⟩

def ofOptions (o : Options) : Except QueryError SortParser := do
  o.validate
  return ⟨o.sortDelimiter, o.descendingMark⟩

def parseToken (p : SortParser) (token : String) : Except QueryError SortKey :=
  let trimmed := Text.trim token.toList
  let (field, direction) : List Char × SortDirection :=
    match trimmed with
    | [] => ([], .ascending)
    | c :: r => if c = p.descendingMark then (Text.trim r, .descending) else (c :: r, .ascending)
  if field.isEmpty then .error (.invalidSortField (String.ofList trimmed))
  else .ok ⟨String.ofList field, String.ofList trimmed, direction⟩

/-- The keys of a sort list. Tokens without a field are skipped, and a field counts once. -/
def parse (p : SortParser) (raw : String) : List SortKey :=
  firsts (fun a b => a.field == b.field)
    ((Text.pieces p.delimiter raw).filterMap fun t => (p.parseToken t).toOption)

end SortParser

end BracketQuery
