import BracketQuery.Text.CaseFolding
import BracketQuery.Text.Word

/-!
Patterns with captures. A pattern describes the ways in which it can go on from a place in a text;
the order of these ways matters, the first one that leads to a match of the whole is taken.
-/

namespace BracketQuery

inductive Boundary
  | textStart
  | textEnd
  | lineStart
  | lineEnd
  | crlfLineStart
  | crlfLineEnd
  | wordEdge (unicode : Bool)
  | noWordEdge (unicode : Bool)
  | wordStart (unicode : Bool)
  | wordEnd (unicode : Bool)
  | wordStartHalf (unicode : Bool)
  | wordEndHalf (unicode : Bool)
deriving DecidableEq, Repr

namespace Boundary

def isWord (unicode : Bool) : Option Char → Bool
  | none => false
  | some c => (if unicode then Text.wordChars else Text.asciiWordChars).contains c

def holds : Boundary → Option Char → Option Char → Bool
  | textStart, p, _ => p.isNone
  | textEnd, _, n => n.isNone
  | lineStart, p, _ => p.isNone || p == some '\n'
  | lineEnd, _, n => n.isNone || n == some '\n'
  | crlfLineStart, p, n => p.isNone || p == some '\n' || (p == some '\r' && n != some '\n')
  | crlfLineEnd, p, n => n.isNone || n == some '\r' || (n == some '\n' && p != some '\r')
  | wordEdge u, p, n => isWord u p != isWord u n
  | noWordEdge u, p, n => isWord u p == isWord u n
  | wordStart u, p, n => !isWord u p && isWord u n
  | wordEnd u, p, n => isWord u p && !isWord u n
  | wordStartHalf u, p, _ => !isWord u p
  | wordEndHalf u, _, n => !isWord u n

end Boundary

/--
`chars` takes one character of a set, `either` prefers its first part, and `repetition` takes
`least` up to `most` copies, as many as it can or, if `lazy`, as few as it can.
-/
inductive Pattern
  | empty
  | chars (set : CharSet)
  | look (b : Boundary)
  | seq (p q : Pattern)
  | either (p q : Pattern)
  | repetition (p : Pattern) (least : Nat) (most : Option Nat) (isLazy : Bool)
  | capture (name : Option String) (p : Pattern)
deriving DecidableEq, Repr, Inhabited

namespace Pattern

def join : List Pattern → Pattern
  | [] => empty
  | empty :: ps => join ps
  | p :: ps =>
    match join ps with
    | empty => p
    | q => seq p q

/-- The parts of a sequence in one row, however it associates. -/
def steps : Pattern → List Pattern
  | empty => []
  | chars s => [chars s]
  | look b => [look b]
  | seq p q => p.steps ++ q.steps
  | either p q => [either (join p.steps) (join q.steps)]
  | repetition p least most isLazy => [repetition (join p.steps) least most isLazy]
  | capture name p => [capture name (join p.steps)]

def oneOf : List Pattern → Pattern
  | [] => chars .empty
  | [p] => p
  | p :: ps => either p (oneOf ps)

def word (s : List Char) : Pattern := join (s.map fun c => chars (CharSet.single c).foldCase)

def optional (p : Pattern) : Pattern := repetition p 0 (some 1) false

def star (p : Pattern) : Pattern := repetition p 0 none false

def plus (p : Pattern) : Pattern := repetition p 1 none false

def named (name : String) (p : Pattern) : Pattern := capture (some name) p

def isZeroWidth : Pattern → Bool
  | empty | look _ => true
  | chars _ => false
  | seq p q | either p q => p.isZeroWidth && q.isZeroWidth
  | repetition p _ most _ => p.isZeroWidth || most == some 0
  | capture _ p => p.isZeroWidth

/-- The least number of characters that the pattern takes, if none of its sets is empty. -/
def leastLength? : Pattern → Option Nat
  | empty | look _ => some 0
  | chars s => if s.isEmpty then none else some 1
  | seq p q => do return (← p.leastLength?) + (← q.leastLength?)
  | either p q => do return min (← p.leastLength?) (← q.leastLength?)
  | repetition p least _ _ => p.leastLength?.map (least * ·)
  | capture _ p => p.leastLength?

def isNullable (p : Pattern) : Bool := (p.leastLength?.getD 0) == 0

end Pattern

end BracketQuery
