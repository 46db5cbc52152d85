import BracketQuery.Json.Value
import BracketQuery.Number.Decimal
import BracketQuery.Text.Search
import BracketQuery.Timestamp

/-! Values of a filter brought to the type of the property that they are compared with. -/

namespace BracketQuery

inductive Scalar
  | bool (b : Bool)
  | number (x : Binary64)
  | time (t : Timestamp)
  | text (s : String)
deriving DecidableEq, Repr

namespace Scalar

/-- Scalars of two types do not compare, nor does NaN. -/
def compare? : Scalar → Scalar → Option Ordering
  | bool a, bool b => some (compare a.toNat b.toNat)
  | number x, number y => x.compare? y
  | time s, time t => some (s.order t)
  | text s, text t => some (Text.order s t)
  | _, _ => none

def readBool? (raw : String) : Option Bool :=
  let s := Text.trimmed raw
  if Text.eqIgnoreAsciiCase s "true" then some true
  else if Text.eqIgnoreAsciiCase s "false" then some false
  else none

def readNumber? (raw : String) : Option Binary64 := Decimal.read? (Text.trim raw.toList)

/--
The property and the value as scalars of the property's type. Texts are timestamps if both are.
-/
def pair? (property : Json.Value) (raw : String) : Option (Scalar × Scalar) :=
  match property with
  | .bool b => (readBool? raw).map fun v => (bool b, bool v)
  | .number n => (readNumber? raw).map fun v => (number n.toBinary64, number v)
  | .string s =>
    match Timestamp.read? s, Timestamp.read? raw with
    | some a, some b => some (time a, time b)
    | _, _ => some (text s, text raw)
  | _ => none

def order? (property : Json.Value) (raw : String) : Option Ordering :=
  (pair? property raw).bind fun p => p.1.compare? p.2

def equals (property : Json.Value) (raw : String) : Bool := order? property raw == some .eq

def text? : Json.Value → Option String
  | .string s => some s
  | .number n => some n.text
  | .bool b => some (if b then "true" else "false")
  | _ => none

end Scalar

end BracketQuery
