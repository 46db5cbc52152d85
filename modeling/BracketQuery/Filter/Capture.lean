import BracketQuery.Filter.Tree
import BracketQuery.Grammar.Filter

namespace BracketQuery

/-- A group is declared, as in `filter[group][$or][parent][0]=name`. -/
structure Declaration where
  name : String
  parent : Option String
  conjunction : Option Conjunction
deriving DecidableEq, Repr

/-- A condition is stated, as in `filter[parent][0][path][$op]=values`. -/
structure Clause where
  parent : Option String
  conjunction : Option Conjunction
  path : String
  operator : Operator
  values : List String
deriving DecidableEq, Repr

inductive Capture
  | declaration (d : Declaration)
  | clause (c : Clause)
deriving DecidableEq, Repr

namespace Capture

def conjunction? : Capture → Option (String × Conjunction)
  | declaration d => d.conjunction.map fun c => (d.name, c)
  | clause l => l.conjunction.map fun c => (l.parent.getD rootName, c)

def declaration? : Capture → Option Declaration
  | declaration d => some d
  | clause _ => none

def clause? : Capture → Option Clause
  | declaration _ => none
  | clause c => some c

def nonBlank (s : String) : Option String :=
  let t := Text.trimmed s
  if t = "" then none else some t

def pathSegments (path : String) : List String :=
  (Text.splitWhere (fun c => c == '[' || c == ']') path.toList).filterMap fun s =>
    nonBlank (String.ofList s)

/--
The parent and the leading segments of a condition. A name is the parent group only if an index
and a path follow it; otherwise name and index are the first segments.
-/
def parentOrSegments (member index path : Option String) : Option String × List String :=
  match member, index with
  | some g, some i => if path.isSome then (some g, []) else (none, [g, i])
  | some g, none => (none, [g])
  | none, _ => (none, [])

def ofMatch? (delimiter : Char) (m : GrammarMatch) : Option Capture :=
  let conjunction := (m.getNonEmpty FilterGrammar.conjunction).bind Conjunction.ofToken?
  let member := (m.get FilterGrammar.memberOf).bind nonBlank
  let value := (m.get FilterGrammar.value).getD ""
  if (m.getNonEmpty FilterGrammar.kind).isSome then
    (nonBlank value).map fun name => declaration ⟨name, member, conjunction⟩
  else
    let (parent, leading) := parentOrSegments member (m.getNonEmpty FilterGrammar.groupIndex)
      (m.getNonEmpty FilterGrammar.path)
    let segments := leading ++ pathSegments ((m.get FilterGrammar.path).getD "")
    let path := ".".intercalate segments
    if (Text.pieces '.' path).all Text.isBlankString then none
    else
      let operator :=
        ((m.getNonEmpty FilterGrammar.operator).bind Operator.ofToken?).getD .standard
      let values := if operator = .regex then [value] else Text.pieces delimiter value
      some (clause ⟨parent, conjunction, path, operator, values⟩)

end Capture

end BracketQuery
