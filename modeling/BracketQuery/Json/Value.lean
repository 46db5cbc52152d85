import BracketQuery.Number.Shortest
import BracketQuery.Text.CaseFolding
import BracketQuery.Text.Numeral

namespace BracketQuery.Json

/-- A number is kept as an integer when it is written as one and fits in 64 bits. -/
inductive Number
  | integer (n : Int)
  | binary (x : Binary64)
deriving DecidableEq, Repr, Inhabited

inductive Value
  | null
  | bool (b : Bool)
  | number (n : Number)
  | string (s : String)
  | array (items : List Value)
  | object (members : List (String × Value))
deriving Inhabited

def Number.toBinary64 : Number → Binary64
  | integer n => .ofInt n
  | binary x => x

def Number.text : Number → String
  | integer n => if n < 0 then "-" ++ Text.decimal n.natAbs else Text.decimal n.natAbs
  | binary x => x.text

namespace Value

def isNull : Value → Bool
  | null => true
  | _ => false

/-- The member of that name: the one that is spelled so, or else the first one that is spelled so
up to the case of ASCII letters. -/
def member? (key : String) (members : List (String × Value)) : Option Value :=
  match members.lookup key with
  | some v => some v
  | none => (members.find? fun m => Text.eqIgnoreAsciiCase m.1 key).map Prod.snd

def child? (segment : String) : Value → Option Value
  | object members => member? segment members
  | array items => do
    let i ← Text.readNat? Text.word64Top segment.toList
    items[i]?
  | _ => none

def walk? : List String → Value → Option Value
  | [], v => some v
  | s :: ss, v => (child? s v).bind (walk? ss)

/-- The property at the end of a path; null counts as absent. -/
def resolve (segments : List String) (v : Value) : Option Value :=
  (walk? segments v).filter fun w => !w.isNull

theorem walk?_append (xs ys : List String) (v : Value) :
    walk? (xs ++ ys) v = (walk? xs v).bind (walk? ys) := by
  induction xs generalizing v with
  | nil => rfl
  | cons x xs ih =>
    simp only [List.cons_append, walk?]
    cases child? x v with
    | none => rfl
    | some w => simp [ih]

end Value

end BracketQuery.Json
