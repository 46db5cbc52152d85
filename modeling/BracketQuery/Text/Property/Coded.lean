import BracketQuery.Text.CharSet

namespace BracketQuery.Text.Property

/--
A character property under its names. The ranges are written, in lines, as numbers: how many code points are
skipped since the last range, then the length of the range less one. A number has the base 26, its
last digit is an upper-case letter and the others are lower-case letters.
-/
structure Coded where
  names : List String
  code : List String

def numbers (value : Nat) : List Char → List Nat
  | [] => []
  | c :: s =>
    if c.isUpper then (value * 26 + (c.toNat - 'A'.toNat)) :: numbers 0 s
    else numbers (value * 26 + (c.toNat - 'a'.toNat)) s

def rangesFrom (next : Nat) : List Nat → List (Nat × Nat)
  | skip :: extra :: ns =>
    (next + skip, next + skip + extra) :: rangesFrom (next + skip + extra + 1) ns
  | _ => []

def Coded.chars (p : Coded) : CharSet := ⟨rangesFrom 0 (numbers 0 (p.code.flatMap String.toList))⟩

def find? (name : String) (ps : List Coded) : Option CharSet :=
  (ps.find? fun p => p.names.contains name).map Coded.chars

def unionOf (names : List String) (ps : List Coded) : CharSet :=
  (ps.filter fun p => p.names.any names.contains).foldl (fun s p => s.union p.chars) .empty

end BracketQuery.Text.Property
