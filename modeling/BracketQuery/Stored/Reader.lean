import BracketQuery.Stored.Writer

/-!
Reading stored values back. A record is an object, whose further members are ignored, or the array
of all its fields in order. A named constant is its name, or an object that maps the name to null.
Nothing is checked beyond the types of the fields.
-/

namespace BracketQuery

open Json

namespace Stored

def fields? (names : List String) : Value → Option (List (Option Value))
  | .object ms => some (names.map fun n => ms.lookup n)
  | .array vs => if vs.length = names.length then some (vs.map some) else none
  | _ => none

def text? : Option Value → Option String
  | some (.string s) => some s
  | _ => none

def optionalText? : Option Value → Option (Option String)
  | none | some .null => some none
  | some (.string s) => some (some s)
  | _ => none

def word32? : Option Value → Option UInt32
  | some (.number (.integer n)) =>
    if 0 ≤ n && n ≤ Text.word32Top then some (UInt32.ofNat n.toNat) else none
  | _ => none

def constant? : Option Value → Option String
  | some (.string s) => some s
  | some (.object [(s, .null)]) => some s
  | _ => none

def texts? : Option Value → Option (List String)
  | some (.array vs) => vs.mapM fun v => text? (some v)
  | _ => none

def operator? (v : Option Value) : Option Operator := (constant? v).bind Operator.ofName?

def conjunction? (v : Option Value) : Option Conjunction := (constant? v).bind Conjunction.ofName?

def direction? (v : Option Value) : Option SortDirection :=
  (constant? v).bind fun s => [SortDirection.ascending, .descending].find? fun d => d.name == s

def leafFields : List String := ["name", "group_name", "path", "operator", "values"]

def leaf? (v : Value) : Option Leaf := do
  match ← fields? leafFields v with
  | [name, groupName, path, operator, values] =>
    return ⟨← text? name, ← optionalText? groupName, ← text? path, ← operator? operator,
      .ofList (← texts? values)⟩
  | _ => none

def heading? (name groupName conjunction : Option Value) : Option Heading := do
  return ⟨← text? name, ← optionalText? groupName, ← conjunction? conjunction⟩

mutual

def group? : Value → Option Group
  | .object ms => do
    let h ← heading? (ms.lookup "name") (ms.lookup "group_name") (ms.lookup "conjunction")
    return ⟨h, ← children? ms⟩
  | .array [name, groupName, conjunction, children] => do
    let h ← heading? (some name) (some groupName) (some conjunction)
    return ⟨h, ← nodes? children⟩
  | _ => none

def children? : List (String × Value) → Option (List Node)
  | [] => none
  | (k, v) :: ms => if k = "children" then nodes? v else children? ms

def nodes? : Value → Option (List Node)
  | .array vs => nodeList? vs
  | _ => none

def nodeList? : List Value → Option (List Node)
  | [] => some []
  | v :: vs => do return (← node? v) :: (← nodeList? vs)

def node? : Value → Option Node
  | .object [(k, v)] =>
    if k = "Leaf" then (leaf? v).map .leaf
    else if k = "Group" then (group? v).map Group.toNode
    else none
  | _ => none

end

def sortKey? (v : Value) : Option SortKey := do
  match ← fields? ["field", "original_token", "direction"] v with
  | [field, token, direction] =>
    return ⟨← text? field, ← text? token, ← direction? direction⟩
  | _ => none

def page? (v : Value) : Option Page := do
  match ← fields? ["after", "before", "offset", "limit"] v with
  | [after, before, offset, limit] =>
    return ⟨← optionalText? after, ← optionalText? before, ← word32? offset, ← word32? limit⟩
  | _ => none

end Stored

end BracketQuery
