import BracketQuery.Ordered
import BracketQuery.Pattern.ByteRange

/-!
Automata that read bytes, as far as their size goes: a draft counts states and what their branches
weigh. The states of a set of characters are shared where a table with a fixed number of slots still
knows them.
-/

namespace BracketQuery

structure KnownState where
  slot : Nat
  key : List Nat
  number : Nat

structure Draft where
  states : Nat
  branches : Nat
  known : List KnownState

namespace Draft

def empty : Draft := ⟨0, 0, []⟩

def weightLimit : Nat := 0x100000

def weight (d : Draft) : Nat := 32 * d.states + d.branches

def fits (d : Draft) : Bool := d.weight ≤ weightLimit

/-- Adds a state whose branches have some weight; its number is the count of states before. -/
def state (branches : Nat) (d : Draft) : Draft := ⟨d.states + 1, d.branches + branches, d.known⟩

def branch (weight : Nat) (d : Draft) : Draft := ⟨d.states, d.branches + weight, d.known⟩

/-- From here on, no state known so far is shared. -/
def forget (d : Draft) : Draft := ⟨d.states, d.branches, []⟩

def chain (n : Nat) (d : Draft) : Draft := ⟨d.states + n, d.branches, d.known⟩

def hash (key : List Nat) : Nat :=
  key.foldl (fun h n => Nat.xor h n * 1099511628211 % 0x10000000000000000) 14695981039346656037

/-- The state of a key: the one that its slot holds, or a new one that takes the slot. -/
def shared (slots : Nat) (branches : Nat) (key : List Nat) (d : Draft) : Nat × Draft :=
  let slot := hash key % slots
  let added := d.state branches
  match d.known.find? fun k => k.slot == slot with
  | some k =>
    if k.key == key then (k.number, d)
    else
      let others := d.known.filter fun k => k.slot != slot
      (d.states, { added with known := ⟨slot, key, d.states⟩ :: others })
  | none => (d.states, { added with known := ⟨slot, key, d.states⟩ :: d.known })

/-- The branches of an unfinished state in turn, and the byte range of its last one. -/
abbrev OpenState := List Nat × ByteRange

/-- Finishes the states on a way, the last one first, and gives the number of the first one. -/
def closeWay (stop : Nat) : List OpenState → Draft → Nat × Draft
  | [], d => (stop, d)
  | (done, r) :: way, d =>
    let (next, d) := closeWay stop way d
    let key := done ++ [r.1, r.2, next]
    d.shared 10000 (8 * (key.length / 3)) key

/-- Goes on with the next sequence; what it does not share with the last one is finished. -/
def extendWay (stop : Nat) : List OpenState → List ByteRange → Draft → List OpenState × Draft
  | (done, r) :: way, q :: qs, d =>
    if r = q then
      let (way, d) := extendWay stop way qs d
      ((done, r) :: way, d)
    else
      let (next, d) := closeWay stop way d
      ((done ++ [r.1, r.2, next], q) :: qs.map ([], ·), d)
  | _, qs, d => (qs.map ([], ·), d)

def setForward (s : CharSet) (d : Draft) : Draft :=
  let stop := d.states
  let (way, d) := s.byteSequences.foldl (fun (way, d) q => extendWay stop way q d)
    ([], (d.state 0).forget)
  (closeWay stop way d).2

def sequenceBackward (stop : Nat) (rs : List ByteRange) (d : Draft) : Draft :=
  (rs.foldl (fun (next, d) r => d.shared 1000 0 [next, r.1, r.2]) (stop, d)).2

def setBackward (s : CharSet) (d : Draft) : Draft :=
  let stop := d.states + 1
  s.byteSequences.foldl (fun d q => (d.sequenceBackward stop q).branch 4)
    ((d.state 0).state 0).forget

def charSet (forward : Bool) (s : CharSet) (d : Draft) : Draft :=
  if s.isSingle then d.chain ((s.byteSequences.map List.length).foldl Nat.add 0)
  else if s.isAscii then (d.state 0).state (8 * s.ranges.length)
  else if forward then d.setForward s
  else d.setBackward s

def oneEmptyWord : List (List Nat) → List (List Nat)
  | [] :: [] :: ws => oneEmptyWord ([] :: ws)
  | ws => ws

def rows : List (List Nat) → List (List (List Nat))
  | [] => [[]]
  | [] :: ws => [] :: rows ws
  | w :: ws =>
    match rows ws with
    | [] => [[w]]
    | r :: rs => (w :: r) :: rs

def byFirstByte (ws : List (List Nat)) : List (List (List Nat)) :=
  (groupBy List.head? ws).map fun g => g.2.map (List.drop 1)

/--
A choice between words, each of them shorter than `fuel`. Words that begin alike share states, but
for those with a word between them that has ended before.
-/
def wordTree : Nat → List (List Nat) → Draft → Draft
  | 0, _, d => d
  | fuel + 1, ws, d =>
    if ws.all List.isEmpty then d
    else
      let rs := rows (oneEmptyWord ws)
      let d := rs.foldl
        (fun d r =>
          let heads := byFirstByte r
          let d := heads.foldl (fun d ws => wordTree fuel ws d) d
          if heads.isEmpty then d
          else d.state (if heads.length = 1 then 0 else 8 * heads.length))
        d
      d.state (4 * ((rs.filter fun r => !r.isEmpty).length + (rs.length - 1)))

/-- Alternatives in turn; the first two come before the states where they part and meet. -/
def anyOf : List (Draft → Draft) → Draft → Draft
  | [], d => d
  | [x], d => x d
  | x :: y :: xs, d =>
    xs.foldl (fun d z => z d) (((y (x d)).state (4 * (xs.length + 2))).state 0)

/-- Copies of a part, as long as the draft is not too heavy. -/
def times (x : Draft → Draft) : Nat → Draft → Draft
  | 0, d => d
  | n + 1, d => if d.fits then times x n (x d) else d

def optionalCopies (x : Draft → Draft) (n : Nat) (d : Draft) : Draft :=
  times (fun d => x (d.state 8)) n d

def repeated (x : Draft → Draft) (isNullable : Bool) (least : Nat) (most : Option Nat)
    (d : Draft) : Draft :=
  match most with
  | some most =>
    if least = 0 && most = 1 then (optionalCopies x 1 d).state 0
    else
      let d := if least = 0 then d.state 0 else times x least d
      if least < most then optionalCopies x (most - least) (d.state 0) else d
  | none =>
    if least ≠ 0 then (times x least d).state 8
    else if isNullable then (((x d).state 8).state 8).state 0
    else x (d.state 8)

end Draft

end BracketQuery
