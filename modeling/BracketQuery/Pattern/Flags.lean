import BracketQuery.Pattern.Basic
import BracketQuery.Text.Blank
import BracketQuery.Text.Digit

/-! What the flags of a pattern make of its literals, classes and anchors. -/

namespace BracketQuery

/-- The flags `i m s U u R x`, in this order. -/
structure PatternFlags where
  ignoreCase : Bool
  multiLine : Bool
  dotAll : Bool
  swapGreed : Bool
  unicode : Bool
  crlf : Bool
  verbose : Bool
deriving DecidableEq, Repr

namespace PatternFlags

def standard (ignoreCase : Bool) : PatternFlags :=
  ⟨ignoreCase, false, false, false, true, false, false⟩

def set? (value : Bool) (f : PatternFlags) (c : Char) : Option PatternFlags :=
  match c with
  | 'i' => some { f with ignoreCase := value }
  | 'm' => some { f with multiLine := value }
  | 's' => some { f with dotAll := value }
  | 'U' => some { f with swapGreed := value }
  | 'u' => some { f with unicode := value }
  | 'R' => some { f with crlf := value }
  | 'x' => some { f with verbose := value }
  | _ => none

def ascii : CharSet := ⟨[(0, 0x7F)]⟩

/--
Closes a class under case if the flags ask for it. Without `u` a class holds ASCII characters only.
-/
def fold (f : PatternFlags) (s : CharSet) : CharSet :=
  if !f.ignoreCase then s
  else if f.unicode then s.foldCase
  else s.foldCase.inter ascii

/-- What a class leaves out. Without `u` this would be bytes that are no characters. -/
def complement? (f : PatternFlags) (s : CharSet) : Option CharSet :=
  if f.unicode then some s.complement else none

def literal? (f : PatternFlags) (byte : Bool) (c : Char) : Option Pattern :=
  if f.unicode then some (.chars (f.fold (.single c)))
  else if byte && 0x7F < c.toNat then none
  else some (.chars (if c.toNat ≤ 0x7F then f.fold (.single c) else .single c))

def dot? (f : PatternFlags) : Option Pattern :=
  if !f.unicode then none
  else if f.dotAll then some (.chars .all)
  else if f.crlf then some (.chars (CharSet.ofChars ['\r', '\n']).complement)
  else some (.chars (CharSet.single '\n').complement)

def caret (f : PatternFlags) : Boundary :=
  if f.multiLine then (if f.crlf then .crlfLineStart else .lineStart) else .textStart

def dollar (f : PatternFlags) : Boundary :=
  if f.multiLine then (if f.crlf then .crlfLineEnd else .lineEnd) else .textEnd

def asciiDigits : CharSet := ⟨[(0x30, 0x39)]⟩

def asciiBlanks : CharSet := ⟨[(0x9, 0xD), (0x20, 0x20)]⟩

def digits (f : PatternFlags) : CharSet := if f.unicode then Text.decimalDigits else asciiDigits

def blanks (f : PatternFlags) : CharSet := if f.unicode then Text.blanks else asciiBlanks

def wordChars (f : PatternFlags) : CharSet :=
  if f.unicode then Text.wordChars else Text.asciiWordChars

def shorthand? (f : PatternFlags) (c : Char) : Option CharSet :=
  match c with
  | 'd' => some f.digits
  | 's' => some f.blanks
  | 'w' => some f.wordChars
  | 'D' => f.complement? f.digits
  | 'S' => f.complement? f.blanks
  | 'W' => f.complement? f.wordChars
  | _ => none

def asciiClass? (name : String) : Option CharSet :=
  match name with
  | "alnum" => some ⟨[(0x30, 0x39), (0x41, 0x5A), (0x61, 0x7A)]⟩
  | "alpha" => some ⟨[(0x41, 0x5A), (0x61, 0x7A)]⟩
  | "ascii" => some ascii
  | "blank" => some ⟨[(0x9, 0x9), (0x20, 0x20)]⟩
  | "cntrl" => some ⟨[(0, 0x1F), (0x7F, 0x7F)]⟩
  | "digit" => some asciiDigits
  | "graph" => some ⟨[(0x21, 0x7E)]⟩
  | "lower" => some ⟨[(0x61, 0x7A)]⟩
  | "print" => some ⟨[(0x20, 0x7E)]⟩
  | "punct" => some ⟨[(0x21, 0x2F), (0x3A, 0x40), (0x5B, 0x60), (0x7B, 0x7E)]⟩
  | "space" => some asciiBlanks
  | "upper" => some ⟨[(0x41, 0x5A)]⟩
  | "word" => some Text.asciiWordChars
  | "xdigit" => some ⟨[(0x30, 0x39), (0x41, 0x46), (0x61, 0x66)]⟩
  | _ => none

end PatternFlags

end BracketQuery
