namespace BracketQuery

/-- A set of characters, given by inclusive ranges of code points in increasing order. -/
structure CharSet where
  ranges : List (Nat × Nat)
deriving DecidableEq, Repr, Inhabited

namespace CharSet

def top : Nat := 0x10FFFF

def insertRange (lo hi : Nat) : List (Nat × Nat) → List (Nat × Nat)
  | [] => [(lo, hi)]
  | (a, b) :: rs =>
    if hi + 1 < a then (lo, hi) :: (a, b) :: rs
    else if b + 1 < lo then (a, b) :: insertRange lo hi rs
    else insertRange (min lo a) (max hi b) rs

def empty : CharSet := ⟨[]⟩

def all : CharSet := ⟨[(0, top)]⟩

def single (c : Char) : CharSet := ⟨[(c.toNat, c.toNat)]⟩

def range (lo hi : Nat) : CharSet := ⟨if lo ≤ hi then [(lo, hi)] else []⟩

def ofRanges (rs : List (Nat × Nat)) : CharSet :=
  ⟨rs.foldl (fun acc r => insertRange r.1 r.2 acc) []⟩

def ofChars (cs : List Char) : CharSet := ofRanges (cs.map fun c => (c.toNat, c.toNat))

def contains (s : CharSet) (c : Char) : Bool :=
  s.ranges.any fun r => r.1 ≤ c.toNat && c.toNat ≤ r.2

def isEmpty (s : CharSet) : Bool := s.ranges.isEmpty

def isSingle (s : CharSet) : Bool :=
  match s.ranges with
  | [(a, b)] => a == b
  | _ => false

def union (s t : CharSet) : CharSet :=
  ⟨t.ranges.foldl (fun acc r => insertRange r.1 r.2 acc) s.ranges⟩

def gaps (next : Nat) : List (Nat × Nat) → List (Nat × Nat)
  | [] => if next ≤ top then [(next, top)] else []
  | (a, b) :: rs => if next < a then (next, a - 1) :: gaps (b + 1) rs else gaps (b + 1) rs

def complement (s : CharSet) : CharSet := ⟨gaps 0 s.ranges⟩

def inter (s t : CharSet) : CharSet := (s.complement.union t.complement).complement

def diff (s t : CharSet) : CharSet := s.inter t.complement

def symmDiff (s t : CharSet) : CharSet := (s.diff t).union (t.diff s)

def isAscii (s : CharSet) : Bool := s.ranges.all fun r => r.2 ≤ 0x7F

@[simp] theorem contains_single (c d : Char) : (single c).contains d = (d == c) := by
  have h : (d == c) = (d.toNat == c.toNat) := by
    by_cases e : d = c
    · simp [e]
    · simp only [beq_eq_false_iff_ne.2 e]
      exact (beq_eq_false_iff_ne.2 fun h => e (Char.ext (UInt32.toNat_inj.1 h))).symm
  rw [h, Bool.eq_iff_iff]
  simp [single, contains]
  omega

@[simp] theorem any_insertRange (p lo hi : Nat) (h : lo ≤ hi) (rs : List (Nat × Nat))
    (hrs : ∀ r ∈ rs, r.1 ≤ r.2) :
    ((insertRange lo hi rs).any fun r => r.1 ≤ p && p ≤ r.2) =
      ((lo ≤ p && p ≤ hi) || rs.any fun r => r.1 ≤ p && p ≤ r.2) := by
  induction rs generalizing lo hi with
  | nil => simp [insertRange]
  | cons r rs ih =>
    obtain ⟨a, b⟩ := r
    have hab : a ≤ b := hrs (a, b) (by simp)
    have htl : ∀ r ∈ rs, r.1 ≤ r.2 := fun r hr => hrs r (by simp [hr])
    unfold insertRange
    split
    · simp
    · split
      · rw [List.any_cons, ih lo hi h htl, List.any_cons, Bool.or_left_comm]
      · rw [ih _ _ (by omega) htl, List.any_cons, ← Bool.or_assoc]
        congr 1
        rw [Bool.eq_iff_iff]
        simp
        omega

end CharSet

end BracketQuery
