namespace BracketQuery

/--
A number of the binary64 format: a sign, and the biased exponent with the fraction read as one
number, so that a larger `magnitude` is a larger absolute value.
-/
structure Binary64 where
  negative : Bool
  magnitude : Nat
deriving DecidableEq, Repr, Inhabited

namespace Binary64

/-- The weight of the first of the 53 bits of a significand. -/
def leading : Nat := 0x10000000000000

/-- The magnitude of the infinities; above it there are only NaNs. -/
def infinite : Nat := 0x7FF * leading

def nan : Binary64 := ⟨false, infinite + leading / 2⟩

def isNaN (x : Binary64) : Bool := infinite < x.magnitude

/-- The significand of a finite magnitude; its unit is `2 ^ (scale - 1074)`. -/
def significand (magnitude : Nat) : Nat :=
  if magnitude < 2 * leading then magnitude else leading + magnitude % leading

def scale (magnitude : Nat) : Nat :=
  if magnitude < 2 * leading then 0 else magnitude / leading - 1

def units (magnitude : Nat) : Nat := significand magnitude * Nat.pow 2 (scale magnitude)

def roundQuotient (num den : Nat) : Nat :=
  let q := num / den
  let twice := 2 * (num % den)
  if twice < den then q
  else if den < twice then q + 1
  else q + q % 2

/-- The scale at which `num / den` has a significand of 53 bits, or else the smallest one. -/
def scaleOf (num den : Nat) : Nat :=
  let up := num * Nat.pow 2 1074
  let l := Nat.log2 up - Nat.log2 den
  let k := if den * Nat.pow 2 l ≤ up then l else l - 1
  k - 52

/-- The magnitude nearest to a quotient; a tie goes to the even one. -/
def magnitudeOf (num den : Nat) : Nat :=
  let k := scaleOf num den
  min infinite (k * leading + roundQuotient (num * Nat.pow 2 1074) (den * Nat.pow 2 k))

def ofDecimal (negative : Bool) (digits : Nat) (exponent : Int) : Binary64 :=
  ⟨negative,
    if digits = 0 then 0
    else if 400 < exponent then infinite
    else if exponent + (Nat.toDigits 10 digits).length < -400 then 0
    else if 0 ≤ exponent then magnitudeOf (digits * Nat.pow 10 exponent.toNat) 1
    else magnitudeOf digits (Nat.pow 10 (-exponent).toNat)⟩

def ofInt (n : Int) : Binary64 := ⟨n < 0, magnitudeOf n.natAbs 1⟩

/-- Orders all numbers but the NaNs; the zeros have one key. -/
def key (x : Binary64) : Int := if x.negative then -x.magnitude else x.magnitude

/-- Orders the representations, a negative zero below the positive one. -/
def rank (x : Binary64) : Int := if x.negative then -x.magnitude - 1 else x.magnitude

def compare? (x y : Binary64) : Option Ordering :=
  if x.isNaN || y.isNaN then none else some (compare x.key y.key)

theorem compare?_self {x : Binary64} (h : x.isNaN = false) : x.compare? x = some .eq := by
  simp [compare?, h]

end Binary64

end BracketQuery
