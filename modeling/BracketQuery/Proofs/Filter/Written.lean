import BracketQuery.Filter.Parser
import BracketQuery.Proofs.Grammar.Query
import Mathlib.Tactic.MkIffOfInductiveProp

/-! Trees of filters written as queries, and the trees that can be. -/

namespace BracketQuery

def Operator.token (o : Operator) : String :=
  ((tokens.find? fun p => p.2 == o).map Prod.fst).getD ""

def Conjunction.token : Conjunction → String
  | and => "and"
  | or => "or"

def memberName (owner : String) : Option String := if owner = rootName then none else some owner

namespace Leaf

/-- The values one by one or, where that is possible and wanted, all in one text. -/
def texts (delimiter : Char) (packed : Bool) (l : Leaf) : List String :=
  if packed && l.operator != .regex && delimiter != '&' then
    [String.ofList ([delimiter].intercalate (l.values.toList.map String.toList))]
  else l.values.toList

/-- The pairs of a leaf; those of the root say how the root combines. -/
def pairs (o : Options) (packed : Bool) (owner : Heading) (l : Leaf) : List FilterPair :=
  (l.texts o.valueDelimiter packed).map fun v =>
    ⟨none, if owner.name = rootName then some owner.conjunction.token else none,
      memberName owner.name, some "0", [l.path], some l.operator.token, v⟩

end Leaf

def Heading.pair (o : Options) (h owner : Heading) : FilterPair :=
  ⟨some o.groupKeyword, some h.conjunction.token, memberName owner.name,
    (memberName owner.name).map fun _ => "0", [], none, h.name⟩

def Node.pairs (o : Options) (packed : Bool) (owner : Heading) : Node → List FilterPair
  | .leaf l => l.pairs o packed owner
  | .group h _ => [h.pair o owner]

namespace Group

/-- One group after the other, each with its leaves and the declarations of the groups in it. -/
def pairs (o : Options) (packed : Bool) (t : Group) : List FilterPair :=
  t.toNode.groups.flatMap fun g => g.children.flatMap fun n => n.pairs o packed g.toHeading

def query (o : Options) (packed : Bool) (t : Group) : String :=
  String.ofList (Percent.encode (FilterPair.query o.filterKey (t.pairs o packed)))

end Group

namespace Node

mutual

def depth : Node → Nat
  | leaf _ => 0
  | group _ cs => depthIn cs + 1

def depthIn : List Node → Nat
  | [] => 0
  | c :: cs => max (depth c) (depthIn cs)

end

def leaf? : Node → Option Leaf
  | leaf l => some l
  | group _ _ => none

def group? : Node → Option Group
  | leaf _ => none
  | group h cs => some ⟨h, cs⟩

end Node

@[mk_iff]
structure Leaf.IsWritable (delimiter : Char) (owner : String) (l : Leaf) : Prop where
  name : l.name = l.path
  groupName : l.groupName = some owner
  operator : l.operator ≠ .none
  values : l.values.toList ≠ []
  trimmed : Text.trimmed l.path = l.path
  plain : ∀ c ∈ l.path.toList, c ≠ '[' ∧ c ≠ ']' ∧ c ≠ '$'
  segment : ∃ s ∈ Text.pieces '.' l.path, Text.isBlankString s = false
  value : ∀ v ∈ l.values.toList, '&' ∉ v.toList ∧ (l.operator ≠ .regex → delimiter ∉ v.toList)

@[mk_iff]
structure Heading.IsWritable (keyword : String) (owner : String) (h : Heading) : Prop where
  groupName : h.groupName = some owner
  trimmed : Text.trimmed h.name = h.name
  start : ∃ c ∈ h.name.toList.head?, c.isAlpha = true ∨ c = '_'
  plain : ∀ c ∈ h.name.toList, c ≠ '[' ∧ c ≠ ']' ∧ c ≠ '$' ∧ c ≠ '&'
  keyword : Text.foldsTo keyword.toList h.name.toList = false

instance (d : Char) (owner : String) (l : Leaf) : Decidable (l.IsWritable d owner) :=
  decidable_of_iff
    (l.name = l.path ∧ l.groupName = some owner ∧ l.operator ≠ .none ∧ l.values.toList ≠ [] ∧
      Text.trimmed l.path = l.path ∧ l.path.toList.all (fun c => c ≠ '[' ∧ c ≠ ']' ∧ c ≠ '$') ∧
      (∃ x ∈ Text.pieces '.' l.path, Text.isBlankString x = false) ∧
      ∀ v ∈ l.values.toList, '&' ∉ v.toList ∧ (l.operator ≠ .regex → d ∉ v.toList))
    (by simp only [Leaf.isWritable_iff, List.all_eq_true, decide_eq_true_eq])

instance (keyword owner : String) (h : Heading) : Decidable (h.IsWritable keyword owner) :=
  decidable_of_iff
    (h.groupName = some owner ∧ Text.trimmed h.name = h.name ∧
      h.name.toList.head?.any (fun c => c.isAlpha ∨ c = '_') ∧
      h.name.toList.all (fun c => c ≠ '[' ∧ c ≠ ']' ∧ c ≠ '$' ∧ c ≠ '&') ∧
      Text.foldsTo keyword.toList h.name.toList = false)
    (by simp only [Heading.isWritable_iff, Option.any_eq_true, List.all_eq_true, decide_eq_true_eq,
      Option.mem_def])

/-- Something lies in a group: first leaves that differ in path or operator, then other groups. -/
structure Group.IsSorted (g : Group) : Prop where
  nonempty : g.children ≠ []
  order : g.children =
    (g.children.filterMap Node.leaf?).map .leaf ++ (g.children.filterMap Node.group?).map Group.toNode
  distinct : ((g.children.filterMap Node.leaf?).map fun l => (l.path, l.operator)).Nodup

/-- What a tree must be like for a query to say all that it says. -/
structure Group.IsWritable (o : Options) (t : Group) : Prop where
  name : t.name = rootName
  groupName : t.groupName = none
  depth : Node.depthIn t.children ≤ maxGroupDepth
  names : (t.toNode.groups.map fun g => g.name).Nodup
  conjunction : t.children.filterMap Node.leaf? = [] → t.conjunction = .and
  sorted : ∀ g ∈ t.toNode.groups, g.IsSorted
  leaf : ∀ g ∈ t.toNode.groups, ∀ l ∈ g.children.filterMap Node.leaf?,
    l.IsWritable o.valueDelimiter g.name
  heading : ∀ g ∈ t.toNode.groups, ∀ k ∈ g.children.filterMap Node.group?,
    k.toHeading.IsWritable o.groupKeyword g.name

/-- Options whose group keyword is not taken for a conjunction. -/
structure Options.IsUnambiguous (o : Options) : Prop where
  notAnd : Text.foldsTo o.groupKeyword.toList "$and".toList = false
  notOr : Text.foldsTo o.groupKeyword.toList "$or".toList = false

end BracketQuery
