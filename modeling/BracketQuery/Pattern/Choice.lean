import BracketQuery.Pattern.Basic

/-!
Choices between patterns. Alternatives that take one character each are one set; sequences that all
begin alike share their beginning, so that its ways are tried once for all of them.
-/

namespace BracketQuery

namespace Pattern

def size : Pattern → Nat
  | empty | chars _ | look _ => 1
  | seq p q | either p q => p.size + q.size + 1
  | repetition p _ _ _ | capture _ p => p.size + 1

def hasCapture : Pattern → Bool
  | empty | chars _ | look _ => false
  | seq p q | either p q => p.hasCapture || q.hasCapture
  | repetition p _ _ _ => p.hasCapture
  | capture _ _ => true

def parts : Pattern → List Pattern
  | empty => []
  | seq p q => p.parts ++ q.parts
  | p => [p]

def options : Pattern → List Pattern
  | either p q => p.options ++ q.options
  | p => [p]

def charSet? : Pattern → Option CharSet
  | chars s => some s
  | _ => none

def isLetter : Pattern → Bool
  | chars s => s.isSingle
  | _ => false

/-- The parts of a sequence, letters in a row as one. -/
def blocks (p : Pattern) : List (List Pattern) :=
  p.parts.splitBy fun q r => q.isLetter && r.isLetter

/-- What two sequences have in common at their beginning; captures are all different. -/
def sharedBlocks : List (List Pattern) → List (List Pattern) → List (List Pattern)
  | b :: bs, c :: cs => if b == c && !b.any hasCapture then b :: sharedBlocks bs cs else []
  | _, _ => []

/--
The choice between patterns none of which is a choice itself; `fuel` bounds how often a beginning is
split off.
-/
def chooseFrom : Nat → List Pattern → Pattern
  | 0, ps => oneOf ps
  | fuel + 1, ps =>
    match ps.mapM charSet? with
    | some ss => chars (ss.foldl CharSet.union .empty)
    | none =>
      let rows := ps.map blocks
      let front := (rows.drop 1).foldl sharedBlocks (rows.headD [])
      if ps.length < 2 || front.isEmpty || rows.any fun r => r.length < 2 then oneOf ps
      else
        let rests := rows.map fun r => join (r.drop front.length).flatten
        join (front.flatten ++ [chooseFrom fuel (rests.flatMap options)])

def choose (ps : List Pattern) : Pattern :=
  let ps := ps.flatMap options
  chooseFrom (ps.headD .empty).size ps

end Pattern

end BracketQuery
