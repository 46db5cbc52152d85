import BracketQuery.Text.Numeral

namespace BracketQuery.Percent

def byte? (a b : Char) : Option UInt8 := do
  let h ← Text.hexValue? a
  let l ← Text.hexValue? b
  return UInt8.ofNat (16 * h + l)

/-- The bytes that an escaped text stands for. A `%` without two hex digits stands for itself. -/
def bytes : List Char → List UInt8
  | [] => []
  | '%' :: a :: b :: s =>
    match byte? a b with
    | some x => x :: bytes s
    | none => String.utf8EncodeChar '%' ++ bytes (a :: b :: s)
  | c :: s => String.utf8EncodeChar c ++ bytes s

def ofBytes? (bs : List UInt8) : Option (List Char) :=
  (ByteArray.mk bs.toArray).utf8Decode?.map Array.toList

/-- Resolves the escapes; a text whose bytes are not UTF-8 stays as it is. -/
def decode (s : List Char) : List Char :=
  if s.contains '%' then (ofBytes? (bytes s)).getD s else s

def hexDigit (n : Nat) : Char := if n < 10 then Char.ofNat (48 + n) else Char.ofNat (55 + n)

def encodeByte (b : UInt8) : List Char := ['%', hexDigit (b.toNat / 16), hexDigit (b.toNat % 16)]

def isUnreserved (c : Char) : Bool :=
  c.isAlphanum || c == '-' || c == '_' || c == '.' || c == '~'

def encode (s : List Char) : List Char :=
  s.flatMap fun c =>
    if isUnreserved c then [c] else (String.utf8EncodeChar c).flatMap encodeByte

theorem bytes_cons {c : Char} (h : c ≠ '%') (s : List Char) :
    bytes (c :: s) = String.utf8EncodeChar c ++ bytes s := by
  rw [bytes.eq_def]
  grind

theorem bytes_escape {a b : Char} {x : UInt8} (h : byte? a b = some x) (s : List Char) :
    bytes ('%' :: a :: b :: s) = x :: bytes s := by
  simp [bytes, h]

theorem decode_of_not_mem {s : List Char} (h : '%' ∉ s) : decode s = s := by simp [decode, h]

end BracketQuery.Percent
