import BracketQuery.Ordered
import BracketQuery.QueryError
import BracketQuery.Text.Blank
import BracketQuery.Text.Split

namespace BracketQuery

structure Leaf where
  name : String
  groupName : Option String
  path : String
  operator : Operator
  values : ValueSet
deriving DecidableEq, Inhabited

structure Heading where
  name : String
  groupName : Option String
  conjunction : Conjunction
deriving DecidableEq, Repr, Inhabited

inductive Node
  | leaf (l : Leaf)
  | group (head : Heading) (children : List Node)
deriving Inhabited

structure Group extends Heading where
  children : List Node
deriving Inhabited

/-- The implicit group of every condition without a parent. -/
def rootName : String := "root"

namespace Leaf

def make (name : String) (groupName : Option String) (path : String) (operator : Operator)
    (values : List String) : Except QueryError Leaf :=
  if Text.isBlankString name then .error .emptyName
  else if Text.isBlankString path then .error (.emptyPath name)
  else .ok ⟨name, groupName, path, operator, .ofList values⟩

def segments (l : Leaf) : List String := (Text.pieces '.' l.path).filter (· != "")

/-- Equality up to the order of the values. -/
def alike (a b : Leaf) : Bool :=
  a.name == b.name && a.groupName == b.groupName && a.path == b.path &&
    a.operator == b.operator && a.values.alike b.values

end Leaf

namespace Node

def name : Node → String
  | leaf l => l.name
  | group h _ => h.name

mutual

def alike : Node → Node → Bool
  | leaf a, leaf b => a.alike b
  | group g cs, group h ds => g == h && allAlike cs ds
  | _, _ => false

def allAlike : List Node → List Node → Bool
  | [], [] => true
  | c :: cs, d :: ds => alike c d && allAlike cs ds
  | _, _ => false

end

mutual

def findLeaf? (path : String) : Node → Option Leaf
  | leaf l => if l.path = path then some l else none
  | group _ cs => findLeafIn? path cs

def findLeafIn? (path : String) : List Node → Option Leaf
  | [] => none
  | c :: cs => (findLeaf? path c).or (findLeafIn? path cs)

end

mutual

def findGroup? (name : String) : Node → Option Group
  | leaf _ => none
  | group h cs => if h.name = name then some ⟨h, cs⟩ else findGroupIn? name cs

def findGroupIn? (name : String) : List Node → Option Group
  | [] => none
  | c :: cs => (findGroup? name c).or (findGroupIn? name cs)

end

mutual

def leaves : Node → List Leaf
  | leaf l => [l]
  | group _ cs => leavesIn cs

def leavesIn : List Node → List Leaf
  | [] => []
  | c :: cs => leaves c ++ leavesIn cs

end

mutual

def groups : Node → List Group
  | leaf _ => []
  | group h cs => ⟨h, cs⟩ :: groupsIn cs

def groupsIn : List Node → List Group
  | [] => []
  | c :: cs => groups c ++ groupsIn cs

end

end Node

namespace Group

def toNode (g : Group) : Node := .group g.toHeading g.children

/-- A group has a name that is not blank; of children that are alike it keeps the first. -/
def make (name : String) (groupName : Option String) (conjunction : Conjunction)
    (children : List Node) : Except QueryError Group :=
  if Text.isBlankString name then .error .emptyName
  else .ok ⟨⟨name, groupName, conjunction⟩, firsts Node.alike children⟩

def isEmpty (g : Group) : Bool := g.children.isEmpty

def findLeaf? (g : Group) (path : String) : Option Leaf := Node.findLeafIn? path g.children

def findGroup? (g : Group) (name : String) : Option Group := g.toNode.findGroup? name

end Group

end BracketQuery
