/-! Lists without repetitions, and items by key, both in the order of first occurrence. -/

namespace BracketQuery

def firsts {α : Type} (alike : α → α → Bool) : List α → List α
  | [] => []
  | x :: xs => x :: (firsts alike xs).filter fun y => !alike x y

def addToGroup {κ α : Type} [DecidableEq κ] (k : κ) (x : α) :
    List (κ × List α) → List (κ × List α)
  | [] => [(k, [x])]
  | (l, ys) :: gs => if l = k then (l, ys ++ [x]) :: gs else (l, ys) :: addToGroup k x gs

def groupBy {κ α : Type} [DecidableEq κ] (key : α → Option κ) (xs : List α) :
    List (κ × List α) :=
  xs.foldl
    (fun groups x => match key x with
      | some k => addToGroup k x groups
      | none => groups)
    []

structure ValueSet where
  toList : List String
  nodup : toList.Nodup
deriving DecidableEq

theorem nodup_firsts {α : Type} [DecidableEq α] (xs : List α) :
    (firsts (fun x y => decide (x = y)) xs).Nodup := by
  induction xs with
  | nil => simp [firsts]
  | cons x xs ih =>
    rw [firsts, List.nodup_cons]
    exact ⟨by simp, ih.filter _⟩

theorem mem_firsts {α : Type} [DecidableEq α] {a : α} {xs : List α} :
    a ∈ firsts (fun x y => decide (x = y)) xs ↔ a ∈ xs := by
  induction xs with
  | nil => simp [firsts]
  | cons x xs ih => by_cases h : a = x <;> simp [firsts, ih, h, eq_comm]

namespace ValueSet

def ofList (xs : List String) : ValueSet :=
  ⟨firsts (fun x y => decide (x = y)) xs, nodup_firsts xs⟩

def alike (s t : ValueSet) : Bool :=
  s.toList.length == t.toList.length && s.toList.all t.toList.contains

instance : Inhabited ValueSet := ⟨⟨[], .nil⟩⟩

@[simp] theorem mem_toList_ofList {x : String} {xs : List String} :
    x ∈ (ofList xs).toList ↔ x ∈ xs :=
  mem_firsts

theorem ofList_toList (s : ValueSet) : ofList s.toList = s := by
  obtain ⟨xs, h⟩ := s
  simp only [ofList, ValueSet.mk.injEq]
  induction xs with
  | nil => rfl
  | cons x xs ih =>
    rw [List.nodup_cons] at h
    rw [firsts, ih h.2, List.filter_eq_self.2]
    intro y hy
    simp only [Bool.not_eq_true', decide_eq_false_iff_not]
    rintro rfl
    exact h.1 hy

end ValueSet

end BracketQuery
