import BracketQuery.Pattern.Basic

/-!
Matching. `Pattern.run` lists the places that a pattern can lead to, best first and each place
once: what follows depends on the place alone, so a second way to the same place is never better.
A way does not come through one branching twice without taking a character in between, which keeps
a repetition of what may be empty from going on for ever.
-/

namespace BracketQuery

structure Span where
  name : String
  start : Nat
  stop : Nat
deriving DecidableEq, Repr

/--
A place in a pattern where its ways part, by the steps that lead down to it, the last one first.
-/
abbrev Branching := List Nat

/--
A place in a text, with what lies on its two sides, the captures on the way to it and the branchings
passed since the last character was taken.
-/
structure Cursor where
  pos : Nat
  prev : Option Char
  rest : List Char
  spans : List Span
  trail : List Branching
deriving DecidableEq, Repr

namespace Cursor

def start (s : List Char) : Cursor := ⟨0, none, s, [], []⟩

def take? (set : CharSet) (c : Cursor) : Option Cursor :=
  match c.rest with
  | [] => none
  | d :: r => if set.contains d then some ⟨c.pos + 1, some d, r, c.spans, []⟩ else none

def pass? (b : Option Branching) (c : Cursor) : Option Cursor :=
  match b with
  | none => some c
  | some b => if c.trail.contains b then none else some { c with trail := b :: c.trail }

def along (set : CharSet) (pos : Nat) (prev : Option Char) (spans : List Span) :
    List Char → List Cursor
  | [] => [⟨pos, prev, [], spans, []⟩]
  | d :: r =>
    ⟨pos, prev, d :: r, spans, []⟩ ::
      if set.contains d then along set (pos + 1) (some d) spans r else []

def record (name : Option String) (start : Nat) (c : Cursor) : Cursor :=
  match name with
  | none => c
  | some n => { c with spans := ⟨n, start, c.pos⟩ :: c.spans.filter fun s => s.name != n }

def merge : List Cursor → List Cursor → List Cursor
  | [], ds => ds
  | cs, ds => cs ++ ds.filter fun d => !cs.any fun c => c.pos == d.pos

def gather (step : Cursor → List Cursor) : List Cursor → List Cursor
  | [] => []
  | c :: cs => merge (step c) (gather step cs)

def distinct : List Cursor → List Cursor
  | [] => []
  | c :: cs => c :: (distinct cs).filter fun d => d.pos != c.pos

def copies (step : Nat → Cursor → List Cursor) (i : Nat) : Nat → List Cursor → List Cursor
  | 0, cs => cs
  | n + 1, cs => if cs.isEmpty then [] else copies step (i + 1) n (gather (step i) cs)

/--
Further copies, depth first, from the places in `todo`: at most `fuel` of them in a row. There is a
branching before each of them, and a place is entered once on a level. Steps, branchings and levels
go by the fuel that is left.
-/
def rounds (step : Nat → Cursor → List Cursor) (branching : Nat → Option Branching)
    (isLazy : Bool) (level : Nat → Nat) :
    Nat → List Cursor → List (Nat × Nat) → List Cursor × List (Nat × Nat)
  | 0, todo, seen => (todo.filter fun c => !seen.contains (level 0, c.pos), seen)
  | fuel + 1, todo, seen =>
    todo.foldl
      (fun (out, seen) c =>
        let key := (level (fuel + 1), c.pos)
        if seen.contains key then (out, seen)
        else match c.pass? (branching (fuel + 1)) with
          | none => (out, key :: seen)
          | some c =>
            let (more, seen) :=
              rounds step branching isLazy level fuel (step (fuel + 1) c) (key :: seen)
            (out ++ (if isLazy then c :: more else more ++ [c]), seen))
      ([], seen)

def loop (step : Cursor → List Cursor) (branching : Option Branching) (isLazy : Bool)
    (length : Nat) (todo : List Cursor) : List Cursor :=
  distinct (rounds (fun _ => step) (fun _ => branching) isLazy (fun _ => 0) (length + 1) todo []).1

def upTo (step : Nat → Cursor → List Cursor) (branching : Nat → Option Branching) (isLazy : Bool)
    (i n : Nat) (c : Cursor) : List Cursor :=
  distinct
    (rounds (fun k => step (i + n - k)) (fun k => branching (i + n - k)) isLazy id n [c] []).1

/--
At least `least` and at most `most` copies. Where there may be none and a copy may be empty, the
decision to have any is a branching of its own.
-/
def repeated (step : Nat → Cursor → List Cursor) (branching : Nat → Option Branching)
    (isNullable : Bool) (least : Nat) (most : Option Nat) (isLazy : Bool) (c : Cursor) :
    List Cursor :=
  match most, least with
  | some n, _ => gather (upTo step branching isLazy least (n - least)) (copies step 0 least [c])
  | none, 0 =>
    if isNullable then
      match c.pass? (branching 0) with
      | none => []
      | some c =>
        let more := loop (step 0) (branching 1) isLazy c.rest.length (step 0 c)
        if isLazy then merge [c] more else merge more [c]
    else loop (step 0) (branching 0) isLazy c.rest.length [c]
  | none, n + 1 =>
    gather (fun c => loop (step n) (branching (n + 1)) isLazy c.rest.length (step n c))
      (copies step 0 n [c])

end Cursor

namespace Pattern

/--
The places that the pattern can lead to, best first. The branchings matter only below a repetition
without a bound whose copies may be empty; only there is it known where in the pattern one is.
-/
def run : Pattern → Option Branching → Cursor → List Cursor
  | empty, _, c => [c]
  | chars s, _, c => (c.take? s).toList
  | look b, _, c => if b.holds c.prev c.rest.head? then [c] else []
  | seq p q, b, c => Cursor.gather (q.run (b.map (1 :: ·))) (p.run (b.map (0 :: ·)) c)
  | either p q, b, c =>
    match c.pass? b with
    | none => []
    | some c => Cursor.merge (p.run (b.map (0 :: ·)) c) (q.run (b.map (1 :: ·)) c)
  | repetition (chars s) least most isLazy, none, c =>
    let far := (Cursor.along s c.pos c.prev c.spans c.rest).drop least
    let cs := match most with
      | none => far
      | some n => far.take (n + 1 - least)
    if isLazy then cs else cs.reverse
  | repetition p least most isLazy, b, c =>
    let opens := b.isNone && most.isNone && p.isNullable
    let b := if opens then some [] else b
    let cs := Cursor.repeated (fun i => p.run (b.map fun b => 1 :: i :: b))
      (fun i => b.map fun b => 0 :: i :: b) p.isNullable least most isLazy c
    if opens then cs.map fun c => { c with trail := [] } else cs
  | capture n p, b, c => (p.run (b.map (0 :: ·)) c).map (Cursor.record n c.pos)

theorem run_seq (p q : Pattern) (b : Option Branching) (c : Cursor) :
    (seq p q).run b c = Cursor.gather (q.run (b.map (1 :: ·))) (p.run (b.map (0 :: ·)) c) := by
  rw [run]

/-- The first match that begins at or after a place: where it begins, and the cursor at its end. -/
def find? (p : Pattern) (pos : Nat) (prev : Option Char) : List Char → Option (Nat × Cursor)
  | [] => (p.run none ⟨pos, prev, [], [], []⟩).head?.map (pos, ·)
  | d :: r =>
    match p.run none ⟨pos, prev, d :: r, [], []⟩ with
    | c :: _ => some (pos, c)
    | [] => find? p (pos + 1) (some d) r

def isMatch (p : Pattern) (s : String) : Bool := (p.find? 0 none s.toList).isSome

/--
The successive matches, none of which overlap: each search starts where the last match ended, and
an empty match there is passed over.
-/
def searchFrom (p : Pattern) : Nat → Option Nat → Cursor → List Cursor
  | 0, _, _ => []
  | fuel + 1, last, c =>
    match p.find? c.pos c.prev c.rest with
    | none => []
    | some (start, d) =>
      if d.pos = start && some d.pos = last then
        match c.rest with
        | [] => []
        | e :: r =>
          match p.find? (c.pos + 1) (some e) r with
          | none => []
          | some (_, d) => d :: searchFrom p fuel (some d.pos) d
      else d :: searchFrom p fuel (some d.pos) d

def search (p : Pattern) (s : List Char) : List (List Span) :=
  (searchFrom p (s.length + 2) none (Cursor.start s)).map Cursor.spans

end Pattern

def Span.text (s : List Char) (x : Span) : List Char := (s.drop x.start).take (x.stop - x.start)

end BracketQuery
