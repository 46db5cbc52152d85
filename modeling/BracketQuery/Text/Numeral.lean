namespace BracketQuery.Text

def digitValue (c : Char) : Nat := c.toNat - '0'.toNat

def hexValue? (c : Char) : Option Nat :=
  if c.isDigit then some (c.toNat - '0'.toNat)
  else if 'a' ≤ c ∧ c ≤ 'f' then some (c.toNat - 'a'.toNat + 10)
  else if 'A' ≤ c ∧ c ≤ 'F' then some (c.toNat - 'A'.toNat + 10)
  else none

def digitsValue (s : List Char) : Nat := s.foldl (fun n c => 10 * n + digitValue c) 0

def word32Top : Nat := 0xFFFFFFFF

def word64Top : Nat := 0xFFFFFFFFFFFFFFFF

def decimal (n : Nat) : String := String.ofList (Nat.toDigits 10 n)

/--
A natural number of at most `bound`: one or more ASCII digits, which a plus sign may precede.
-/
def readNat? (bound : Nat) (s : List Char) : Option Nat :=
  let ds := match s with
    | '+' :: r => r
    | r => r
  if ds.isEmpty || !ds.all Char.isDigit then none
  else if digitsValue ds ≤ bound then some (digitsValue ds) else none

def readWord32? (s : String) : Option UInt32 :=
  (readNat? word32Top s.toList).map UInt32.ofNat

theorem readNat?_le {bound n : Nat} {s : List Char} (h : readNat? bound s = some n) : n ≤ bound := by
  unfold readNat? at h
  grind

end BracketQuery.Text
