import BracketQuery.Json.Value
import BracketQuery.Number.Decimal

namespace BracketQuery.Json

def skipBlanks (s : List Char) : List Char :=
  s.dropWhile fun c => c == ' ' || c == '\t' || c == '\n' || c == '\r'

def readUnit? (s : List Char) : Option (Nat × List Char) := do
  let ds ← (s.take 4).mapM Text.hexValue?
  if ds.length < 4 then none else return (ds.foldl (fun n d => 16 * n + d) 0, s.drop 4)

/-- The character after `\u`; one outside the basic plane takes two units. -/
def readEscaped? (s : List Char) : Option (Char × List Char) := do
  let (hi, s) ← readUnit? s
  if 0xD800 ≤ hi ∧ hi < 0xDC00 then
    match s with
    | '\\' :: 'u' :: s =>
      let (lo, s) ← readUnit? s
      if 0xDC00 ≤ lo ∧ lo < 0xE000 then
        return (Char.ofNat (0x10000 + (hi - 0xD800) * 0x400 + (lo - 0xDC00)), s)
      else none
    | _ => none
  else return (Char.ofNat hi, s)

/-- The rest of a string after its opening quote; `acc` is what was read, reversed. -/
def readString? : Nat → List Char → List Char → Option (String × List Char)
  | 0, _, _ => none
  | _ + 1, _, [] => none
  | fuel + 1, acc, c :: s =>
    if c = '"' then some (String.ofList acc.reverse, s)
    else if c = '\\' then
      match s with
      | [] => none
      | e :: s =>
        match e with
        | 'n' => readString? fuel ('\n' :: acc) s
        | 't' => readString? fuel ('\t' :: acc) s
        | 'r' => readString? fuel ('\r' :: acc) s
        | 'b' => readString? fuel ('\x08' :: acc) s
        | 'f' => readString? fuel ('\x0c' :: acc) s
        | 'u' =>
          match readEscaped? s with
          | some (d, s) => readString? fuel (d :: acc) s
          | none => none
        | e => readString? fuel (e :: acc) s
    else readString? fuel (c :: acc) s

/-- An integer if it is written as one and fits in 64 bits; negative zero is no integer. -/
def number? (s : List Char) : Option Number :=
  let ds := if s.head? = some '-' then s.drop 1 else s
  let n : Int := if s.head? = some '-' then -(Text.digitsValue ds : Int) else Text.digitsValue ds
  if ds.isEmpty then none
  else if ds.all Char.isDigit && s != ['-', '0'] && -0x8000000000000000 ≤ n && n ≤ Text.word64Top then
    some (.integer n)
  else (Decimal.read? s).map .binary

def isNumberChar (c : Char) : Bool :=
  c.isDigit || c == '-' || c == '+' || c == '.' || c == 'e' || c == 'E'

/-- Sets a member; a name that was there before keeps its place. -/
def setMember (key : String) (v : Value) : List (String × Value) → List (String × Value)
  | [] => [(key, v)]
  | m :: ms => if m.1 = key then (key, v) :: ms else m :: setMember key v ms

mutual

def readValue? : Nat → List Char → Option (Value × List Char)
  | 0, _ => none
  | fuel + 1, s =>
    match skipBlanks s with
    | '"' :: s => (readString? (s.length + 1) [] s).map fun p => (.string p.1, p.2)
    | '[' :: s =>
      match skipBlanks s with
      | ']' :: s => some (.array [], s)
      | s => readItems? fuel [] s
    | '\x7b' :: s =>
      match skipBlanks s with
      | '\x7d' :: s => some (.object [], s)
      | s => readMembers? fuel [] s
    | 't' :: 'r' :: 'u' :: 'e' :: s => some (.bool true, s)
    | 'f' :: 'a' :: 'l' :: 's' :: 'e' :: s => some (.bool false, s)
    | 'n' :: 'u' :: 'l' :: 'l' :: s => some (.null, s)
    | s => (number? (s.takeWhile isNumberChar)).map fun n =>
        (.number n, s.dropWhile isNumberChar)

def readItems? : Nat → List Value → List Char → Option (Value × List Char)
  | 0, _, _ => none
  | fuel + 1, acc, s =>
    match readValue? fuel s with
    | none => none
    | some (v, s) =>
      match skipBlanks s with
      | ',' :: s => readItems? fuel (v :: acc) s
      | ']' :: s => some (.array (v :: acc).reverse, s)
      | _ => none

def readMembers? : Nat → List (String × Value) → List Char → Option (Value × List Char)
  | 0, _, _ => none
  | fuel + 1, acc, s =>
    match skipBlanks s with
    | '"' :: s =>
      match readString? (s.length + 1) [] s with
      | none => none
      | some (key, s) =>
        match skipBlanks s with
        | ':' :: s =>
          match readValue? fuel s with
          | none => none
          | some (v, s) =>
            match skipBlanks s with
            | ',' :: s => readMembers? fuel (setMember key v acc) s
            | '\x7d' :: s => some (.object (setMember key v acc), s)
            | _ => none
        | _ => none
    | _ => none

end

def read? (s : String) : Option Value := do
  let (v, rest) ← readValue? (2 * s.length + 2) s.toList
  if (skipBlanks rest).isEmpty then some v else none

end BracketQuery.Json
