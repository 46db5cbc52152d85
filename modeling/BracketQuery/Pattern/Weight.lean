import BracketQuery.Pattern.Choice
import BracketQuery.Pattern.Draft

/-!
The size of the automata for a pattern, one that reads forwards and one that reads backwards. A
pattern is too large when one of them is too heavy.
-/

namespace BracketQuery

namespace Pattern

def word? (p : Pattern) : Option (List Nat) :=
  if p.parts.isEmpty || !p.parts.all isLetter then none
  else some (p.parts.flatMap fun q => match q with
    | chars s => s.byteSequences.flatMap fun q => q.map Prod.fst
    | _ => [])

def words? (p : Pattern) : Option (List (List Nat)) :=
  if p.options.length < 2 then none else p.options.mapM word?

def drawFrom (forward : Bool) (p : Pattern) (options : List (Draft → Draft)) (d : Draft) : Draft :=
  match p.words? with
  | some ws =>
    let ws := if forward then ws else ws.map List.reverse
    (d.state 0).wordTree ((ws.map List.length).foldl max 0 + 1) ws
  | none => d.anyOf options

/-- How to draw each option of a pattern. Only the forward automaton keeps captures. -/
def drawings (forward : Bool) : Pattern → List (Draft → Draft)
  | empty | look _ => [Draft.state 0]
  | chars s => [Draft.charSet forward s]
  | seq p q =>
    let x := drawFrom forward p (p.drawings forward)
    let y := drawFrom forward q (q.drawings forward)
    [if forward then y ∘ x else x ∘ y]
  | either p q => p.drawings forward ++ q.drawings forward
  | repetition p least most _ =>
    [Draft.repeated (drawFrom forward p (p.drawings forward)) p.isNullable least most]
  | capture _ p =>
    let x := drawFrom forward p (p.drawings forward)
    [if forward then Draft.state 0 ∘ x ∘ Draft.state 0 else x]

def isAnchored : Pattern → Bool
  | empty | chars _ => false
  | look b => b == .textStart
  | seq p q => p.isAnchored || (p.isZeroWidth && q.isAnchored)
  | either p q => p.isAnchored && q.isAnchored
  | repetition p least _ _ => least != 0 && p.isAnchored
  | capture _ p => p.isAnchored

def isAnchoredAtEnd : Pattern → Bool
  | empty | chars _ => false
  | look b => b == .textEnd
  | seq p q => q.isAnchoredAtEnd || (q.isZeroWidth && p.isAnchoredAtEnd)
  | either p q => p.isAnchoredAtEnd && q.isAnchoredAtEnd
  | repetition p least _ _ => least != 0 && p.isAnchoredAtEnd
  | capture _ p => p.isAnchoredAtEnd

/-- The whole automaton: bytes to pass over, the pattern as a capture, and the match. -/
def draft (forward : Bool) (p : Pattern) : Draft :=
  let d :=
    if if forward then p.isAnchored else p.isAnchoredAtEnd then Draft.empty.state 0
    else ((Draft.empty.state 8).state 0).state 8
  let whole := capture none p
  (drawFrom forward whole (whole.drawings forward) d).state 0

def fits (p : Pattern) : Bool := (p.draft true).fits && (p.draft false).fits

end Pattern

end BracketQuery
