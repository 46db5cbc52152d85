namespace BracketQuery.Text

def splitWhere (p : Char → Bool) : List Char → List (List Char)
  | [] => [[]]
  | c :: s =>
    if p c then [] :: splitWhere p s
    else match splitWhere p s with
      | [] => [[c]]
      | w :: ws => (c :: w) :: ws

def splitOn (d : Char) (s : List Char) : List (List Char) := splitWhere (· == d) s

def pieces (d : Char) (s : String) : List String := (splitOn d s.toList).map String.ofList

theorem splitWhere_ne_nil (p : Char → Bool) (s : List Char) : splitWhere p s ≠ [] := by
  cases s with
  | nil => simp [splitWhere]
  | cons c s =>
    unfold splitWhere
    split
    · simp
    · split <;> simp

theorem splitWhere_of_forall {p : Char → Bool} {s : List Char} (h : ∀ c ∈ s, p c = false) :
    splitWhere p s = [s] := by
  induction s with
  | nil => rfl
  | cons c s ih => simp [splitWhere, h c (by simp), ih fun d hd => h d (by simp [hd])]

theorem splitWhere_append_cons {p : Char → Bool} {s : List Char} {d : Char} (t : List Char)
    (h : ∀ c ∈ s, p c = false) (hd : p d = true) :
    splitWhere p (s ++ d :: t) = s :: splitWhere p t := by
  induction s with
  | nil => simp [splitWhere, hd]
  | cons c s ih => simp [splitWhere, h c (by simp), ih fun d hd => h d (by simp [hd])]

theorem flatten_intersperse_splitOn (d : Char) (s : List Char) :
    ((splitOn d s).intersperse [d]).flatten = s := by
  induction s with
  | nil => rfl
  | cons c s ih =>
    unfold splitOn at ih ⊢
    have hne := splitWhere_ne_nil (· == d) s
    match hs : splitWhere (· == d) s with
    | [] => exact absurd hs hne
    | w :: ws =>
      by_cases h : (c == d) = true
      · have : c = d := by simpa using h
        simp_all [splitWhere]
      · rw [hs] at ih
        cases ws <;> simp_all [splitWhere]

end BracketQuery.Text
