import BracketQuery.Text.Blank
import BracketQuery.Text.Numeral

namespace BracketQuery

/--
An instant with the offset it was written in: seconds since 1970 in UTC, nanoseconds (a leap
second counts on from 10^9), and the seconds that local time is ahead of UTC.
-/
structure Timestamp where
  seconds : Int
  nanos : Nat
  offset : Int
deriving DecidableEq, Repr, Inhabited

namespace Timestamp

/-- Order in time; the offset plays no part. -/
def order (s t : Timestamp) : Ordering :=
  (compare s.seconds t.seconds).then (compare s.nanos t.nanos)

def isLeapYear (y : Int) : Bool := y % 4 == 0 && (y % 100 != 0 || y % 400 == 0)

def daysInMonth (y : Int) (m : Nat) : Nat :=
  if m = 2 then (if isLeapYear y then 29 else 28)
  else if m = 4 || m = 6 || m = 9 || m = 11 then 30
  else 31

def minYear : Int := -262143

def maxYear : Int := 262142

def isDate (y : Int) (m d : Nat) : Bool :=
  minYear ≤ y && y ≤ maxYear && 1 ≤ m && m ≤ 12 && 1 ≤ d && d ≤ daysInMonth y m

/-- Days from 1970-01-01 to a date of the Gregorian calendar, counted in years from March. -/
def daysFromEpoch (y : Int) (m d : Nat) : Int :=
  let year := if m ≤ 2 then y - 1 else y
  let month : Int := if m ≤ 2 then m + 9 else m - 3
  365 * year + year / 4 - year / 100 + year / 400 + (153 * month + 2) / 5 + d - 1 - 719468

def digits? (least most : Nat) (s : List Char) : Option (Nat × List Char) :=
  let ds := (s.take most).takeWhile Char.isDigit
  if ds.length < least then none else some (Text.digitsValue ds, s.drop ds.length)

def literal? (c : Char) : List Char → Option (List Char)
  | [] => none
  | d :: s => if d = c then some s else none

/-- An optional fraction of a second in nanoseconds; digits past the ninth are dropped. -/
def fraction? : List Char → Option (Nat × List Char)
  | '.' :: s =>
    let ds := s.takeWhile Char.isDigit
    if ds.isEmpty then none
    else some (Text.digitsValue ((ds ++ List.replicate 9 '0').take 9), s.dropWhile Char.isDigit)
  | s => some (0, s)

def offset? : List Char → Option (Int × List Char)
  | [] => none
  | c :: s =>
    if c = 'Z' || c = 'z' then some (0, s)
    else if c = '+' || c = '-' || c = '\u2212' then do
      let (h, s) ← digits? 2 2 s
      let s ← literal? ':' s
      let (m, s) ← digits? 2 2 s
      guard (h ≤ 23 && m ≤ 59)
      let n : Int := h * 3600 + m * 60
      return (if c = '+' then n else -n, s)
    else none

def full? (s : List Char) : Option Timestamp := do
  let (y, s) ← digits? 4 4 s
  let s ← literal? '-' s
  let (m, s) ← digits? 2 2 s
  let s ← literal? '-' s
  let (d, s) ← digits? 2 2 s
  let s ← literal? 'T' s <|> literal? 't' s <|> literal? ' ' s
  let (hour, s) ← digits? 2 2 s
  let s ← literal? ':' s
  let (minute, s) ← digits? 2 2 s
  let s ← literal? ':' s
  let (second, s) ← digits? 2 2 s
  let (nanos, s) ← fraction? s
  let (offset, s) ← offset? s
  guard (s.isEmpty && isDate y m d && hour ≤ 23 && minute ≤ 59 && second ≤ 60)
  let leap := second = 60
  let time : Int := hour * 3600 + minute * 60 + (if leap then 59 else second)
  return ⟨daysFromEpoch y m d * 86400 + time - offset,
    if leap then nanos + 1000000000 else nanos, offset⟩

/-- A year: up to four digits, or any number of them after a sign. -/
def year? (s : List Char) : Option (Int × List Char) :=
  match s with
  | '-' :: r => (digits? 1 r.length r).map fun p => (-(p.1 : Int), p.2)
  | '+' :: r => (digits? 1 r.length r).map fun p => ((p.1 : Int), p.2)
  | r => (digits? 1 4 r).map fun p => ((p.1 : Int), p.2)

/-- A date such as `2024-3-1`, taken as midnight UTC. White space may precede each number. -/
def date? (s : List Char) : Option Timestamp := do
  let (y, s) ← year? (Text.trimStart s)
  let s ← literal? '-' s
  let (m, s) ← digits? 1 2 (Text.trimStart s)
  let s ← literal? '-' s
  let (d, s) ← digits? 1 2 (Text.trimStart s)
  guard (s.isEmpty && isDate y m d)
  return ⟨daysFromEpoch y m d * 86400, 0, 0⟩

def read? (s : String) : Option Timestamp :=
  let t := Text.trim s.toList
  full? t <|> date? t

end Timestamp

end BracketQuery
