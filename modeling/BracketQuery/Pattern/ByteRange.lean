import BracketQuery.Text.CharSet

/-! Characters as the bytes of their encodings. -/

namespace BracketQuery

abbrev ByteRange := Nat × Nat

namespace ByteRange

def encode (n : Nat) : List Nat :=
  if n ≤ 0x7F then [n]
  else if n ≤ 0x7FF then [0xC0 + n / 64, 0x80 + n % 64]
  else if n ≤ 0xFFFF then [0xE0 + n / 4096, 0x80 + n / 64 % 64, 0x80 + n % 64]
  else [0xF0 + n / 262144, 0x80 + n / 4096 % 64, 0x80 + n / 64 % 64, 0x80 + n % 64]

/-- Where to cut `lo .. hi` so that the encodings of each part are a product of byte ranges. -/
def cut? (lo hi : Nat) : Option Nat :=
  if lo < 0xE000 && 0xD7FF < hi then some (if lo < 0xD800 then 0xD7FF else 0xDFFF)
  else if lo ≤ 0x7F && 0x7F < hi then some 0x7F
  else if lo ≤ 0x7FF && 0x7FF < hi then some 0x7FF
  else if lo ≤ 0xFFFF && 0xFFFF < hi then some 0xFFFF
  else if hi ≤ 0x7F then none
  else [64, 4096, 262144].findSome? fun m =>
    if lo / m = hi / m then none
    else if lo % m ≠ 0 then some (lo / m * m + (m - 1))
    else if hi % m ≠ m - 1 then some (hi / m * m - 1)
    else none

def sequences : Nat → Nat → Nat → List (List ByteRange)
  | 0, _, _ => []
  | fuel + 1, lo, hi =>
    if hi < lo then []
    else if 0xD800 ≤ lo && hi ≤ 0xDFFF then []
    else match cut? lo hi with
      | some m => sequences fuel lo m ++ sequences fuel (m + 1) hi
      | none => [(encode lo).zip (encode hi)]

end ByteRange

namespace CharSet

def byteSequences (s : CharSet) : List (List ByteRange) :=
  s.ranges.flatMap fun r => ByteRange.sequences 24 r.1 r.2

end CharSet

end BracketQuery
