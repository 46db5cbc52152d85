import BracketQuery.Number.Binary64
import BracketQuery.Text.Numeral

namespace BracketQuery.Binary64

/-- The bounds of the reals that round to a finite magnitude, in units of `2 ^ -1075`. -/
def interval (magnitude : Nat) : Nat × Nat :=
  (units (magnitude - 1) + units magnitude, units magnitude + units (magnitude + 1))

def tenPower (place : Int) : Nat × Nat :=
  if 0 ≤ place then (Nat.pow 10 place.toNat, 1) else (1, Nat.pow 10 (-place).toNat)

/--
The multiple of `10 ^ place` that is nearest to the magnitude, among those that round to it; a tie
goes to the even multiple.
-/
def multiple? (magnitude : Nat) (place : Int) : Option Nat :=
  let (num, den) := tenPower place
  let (lo, hi) := interval magnitude
  let step := num * Nat.pow 2 1075
  let within (c : Nat) : Bool :=
    0 < c && if magnitude % 2 = 0 then lo * den ≤ c * step && c * step ≤ hi * den
      else lo * den < c * step && c * step < hi * den
  let value := 2 * units magnitude * den
  let below := value / step
  let nearest := roundQuotient value step
  if within nearest then some nearest
  else if within below then some below
  else if within (below + 1) then some (below + 1)
  else none

def firstPlace (magnitude : Nat) : Nat → Int → Nat × Int
  | 0, place => ((multiple? magnitude place).getD 0, place)
  | fuel + 1, place =>
    match multiple? magnitude place with
    | some c => (c, place)
    | none => firstPlace magnitude fuel (place - 1)

/-- The fewest digits that read back, with the place of the last one. -/
def shortest (magnitude : Nat) : Nat × Int :=
  let top : Int := ((Nat.log2 (units magnitude) : Int) - 1074) * 30103 / 100000 + 2
  firstPlace magnitude 24 top

/-- How numbers are laid out: the decimal exponents that are written without an exponent part. -/
structure Layout where
  plainFrom : Int
  plainTo : Int

def layout : Layout := ⟨-5, 15⟩

def zeroDigits (n : Nat) : List Char := List.replicate n '0'

def Layout.write (l : Layout) (ds : List Char) (place : Int) : List Char :=
  let exponent : Int := ds.length - 1 + place
  if l.plainFrom ≤ exponent && exponent ≤ l.plainTo then
    if 0 ≤ place then ds ++ zeroDigits place.toNat ++ ['.', '0']
    else if 0 ≤ exponent then
      ds.take (exponent.toNat + 1) ++ '.' :: ds.drop (exponent.toNat + 1)
    else '0' :: '.' :: zeroDigits (-exponent - 1).toNat ++ ds
  else
    let sign := if exponent < 0 then '-' else '+'
    let mantissa := match ds with
      | [] => []
      | [d] => [d]
      | d :: r => d :: '.' :: r
    mantissa ++ 'e' :: sign :: Nat.toDigits 10 exponent.natAbs

def text (x : Binary64) : String :=
  let body := if x.magnitude = 0 then ['0', '.', '0']
    else
      let (c, place) := shortest x.magnitude
      layout.write (Nat.toDigits 10 c) place
  String.ofList (if x.negative then '-' :: body else body)

end BracketQuery.Binary64
