import BracketQuery.Json.Value
import BracketQuery.Sort
import BracketQuery.Sort.Stable
import BracketQuery.Text.Search
import BracketQuery.Timestamp

namespace BracketQuery

namespace SortOrder

def typeRank : Json.Value → Nat
  | .null => 0
  | .bool _ => 1
  | .number _ => 2
  | .string _ => 3
  | .array _ => 4
  | .object _ => 5

/-- Values of one type by value, texts in time if both are timestamps; others by type. -/
def values : Json.Value → Json.Value → Ordering
  | .bool a, .bool b => compare a.toNat b.toNat
  | .number m, .number n => compare m.toBinary64.rank n.toBinary64.rank
  | .string s, .string t =>
    match Timestamp.read? s, Timestamp.read? t with
    | some a, some b => a.order b
    | _, _ => Text.order s t
  | v, w => compare (typeRank v) (typeRank w)

def properties : Option Json.Value → Option Json.Value → Ordering
  | none, none => .eq
  | none, some _ => .lt
  | some _, none => .gt
  | some v, some w => values v w

/-- The segments of a field, empty ones included. -/
def segments (k : SortKey) : List String := Text.pieces '.' k.field

def byKey (k : SortKey) (v w : Json.Value) : Ordering :=
  let o := properties (v.resolve (segments k)) (w.resolve (segments k))
  if k.isDescending then o.swap else o

def byKeys : List SortKey → Json.Value → Json.Value → Ordering
  | [], _, _ => .eq
  | k :: ks, v, w => (byKey k v w).then (byKeys ks v w)

end SortOrder

def sortEntities (keys : List SortKey) (entities : List Json.Value) : Option (List Json.Value) :=
  sort? (SortOrder.byKeys keys) entities

end BracketQuery
