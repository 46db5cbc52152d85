import BracketQuery.Filter.Capture

/-! From the pairs of a query to the tree of its groups and conditions. -/

namespace BracketQuery

/-- Where a condition belongs and what it compares; pairs that agree in this share one leaf. -/
structure LeafKey where
  group : String
  path : String
  operator : Operator
deriving DecidableEq, Repr

def Clause.key (c : Clause) : LeafKey := ⟨c.parent.getD rootName, c.path, c.operator⟩

/-- The pairs of a query, sorted out: what each group is combined by, the parent of each declared
group, and the values of each leaf. -/
structure Assembly where
  conjunctions : List (String × Conjunction)
  parents : List (String × String)
  leaves : List (LeafKey × ValueSet)

/-- How many levels below the root a group may lie. -/
def maxGroupDepth : Nat := 32

namespace Assembly

/-- The conjunction that each group is given explicitly; two different ones are a conflict. -/
def collectConjunctions (known : List (String × Conjunction)) :
    List (String × Conjunction) → Except QueryError (List (String × Conjunction))
  | [] => .ok known
  | (g, c) :: rest =>
    match known.lookup g with
    | some d =>
      if d = c then collectConjunctions known rest else .error (.conjunctionConflict g d c)
    | none => collectConjunctions (known ++ [(g, c)]) rest

/-- The parent of each declared group. The first declaration counts; those of the root and those
of a group as its own parent are ignored. -/
def collectParents (known : List (String × String)) : List Declaration → List (String × String)
  | [] => known
  | d :: ds =>
    let p := d.parent.getD rootName
    if d.name = rootName || d.name = p || (known.lookup d.name).isSome then collectParents known ds
    else collectParents (known ++ [(d.name, p)]) ds

def collectLeaves (cs : List Clause) : List (LeafKey × ValueSet) :=
  (groupBy (fun c => some c.key) cs).map fun g => (g.1, .ofList (g.2.flatMap Clause.values))

def ofCaptures (cs : List Capture) : Except QueryError Assembly :=
  (collectConjunctions [] (cs.filterMap Capture.conjunction?)).map fun conjunctions =>
    ⟨conjunctions, collectParents [] (cs.filterMap Capture.declaration?),
      collectLeaves (cs.filterMap Capture.clause?)⟩

def childrenOf (a : Assembly) (name : String) : List String :=
  a.parents.filterMap fun p => if p.2 = name then some p.1 else none

def leavesOf (a : Assembly) (name : String) : Except QueryError (List Node) :=
  (a.leaves.filter fun l => l.1.group == name).mapM fun l =>
    (Leaf.make l.1.path (some name) l.1.path l.1.operator l.2.toList).map Node.leaf

def close (a : Assembly) (name : String) (parent : Option String) (children : List Node) :
    Except QueryError (Option Group) :=
  if children.isEmpty then .ok none
  else (Group.make name parent ((a.conjunctions.lookup name).getD .and) children).map some

/--
The group of that name with all that lies in it, at most `levels` deep. Its leaves come before its
groups, and a group that is one of its own ancestors is left out.
-/
def build (a : Assembly) :
    Nat → List String → String → Option String → Except QueryError (Option Group)
  | 0, _, name, parent => do a.close name parent (← a.leavesOf name)
  | levels + 1, ancestors, name, parent => do
    let leaves ← a.leavesOf name
    let groups ← (a.childrenOf name).mapM fun child =>
      if (name :: ancestors).contains child then .ok none
      else build a levels (name :: ancestors) child (some name)
    a.close name parent (leaves ++ groups.filterMap fun g => g.map Group.toNode)

end Assembly

def assemble (cs : List Capture) : Except QueryError (Option Group) := do
  let a ← Assembly.ofCaptures cs
  a.build maxGroupDepth [] rootName none

end BracketQuery
