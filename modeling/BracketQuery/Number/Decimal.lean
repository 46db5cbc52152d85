import BracketQuery.Number.Binary64
import BracketQuery.Text.Numeral

namespace BracketQuery.Decimal

structure Notation where
  negative : Bool
  digits : Nat
  exponent : Int
deriving DecidableEq, Repr

def Notation.toBinary64 (d : Notation) : Binary64 := .ofDecimal d.negative d.digits d.exponent

def readExponent? (s : List Char) : Option Int :=
  let (negative, ds) := match s with
    | '-' :: r => (true, r)
    | '+' :: r => (false, r)
    | r => (false, r)
  if ds.isEmpty || !ds.all Char.isDigit then none
  else
    let n : Int := Text.digitsValue ds
    some (if negative then -n else n)

/-- A decimal number without its sign. Digits may be missing on one side of the point. -/
def readUnsigned? (negative : Bool) (s : List Char) : Option Notation :=
  let whole := s.takeWhile Char.isDigit
  let (fraction, rest) := match s.dropWhile Char.isDigit with
    | '.' :: r => (r.takeWhile Char.isDigit, r.dropWhile Char.isDigit)
    | r => ([], r)
  if whole.isEmpty && fraction.isEmpty then none
  else
    let make (e : Int) : Notation :=
      ⟨negative, Text.digitsValue (whole ++ fraction), e - fraction.length⟩
    match rest with
    | [] => some (make 0)
    | c :: r => if c = 'e' || c = 'E' then (readExponent? r).map make else none

/-- Reads a binary64 number; infinities and NaN are written as words in any case. -/
def read? (s : List Char) : Option Binary64 :=
  let (negative, r) := match s with
    | '-' :: r => (true, r)
    | '+' :: r => (false, r)
    | r => (false, r)
  match readUnsigned? negative r with
  | some d => some d.toBinary64
  | none =>
    let word := String.ofList (r.map Char.toLower)
    if word = "inf" || word = "infinity" then some ⟨negative, Binary64.infinite⟩
    else if word = "nan" then some ⟨negative, Binary64.nan.magnitude⟩
    else none

end BracketQuery.Decimal
