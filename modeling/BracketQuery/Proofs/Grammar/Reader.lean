import BracketQuery.Proofs.Grammar.Pair
import Mathlib.Data.List.TakeWhile
import Mathlib.Data.Option.Basic

/-! The pairs of a query, read from left to right without a pattern. The brackets of a pair are
taken one after the other, and only then are they given their parts. -/

namespace BracketQuery

section

variable {α : Type}

def takeIf (p : α → Bool) : List α → Option α × List α
  | [] => (none, [])
  | x :: xs => if p x then (some x, xs) else (none, x :: xs)

variable {p : α → Bool} {xs : List α}

lemma takeIf_spec {ys : List α} {o : Option α} (h : takeIf p xs = (o, ys)) :
    o.toList ++ ys = xs ∧ (∀ x ∈ o, p x = true) ∧ (o = none → ∀ x ∈ ys.head?, p x = false) := by
  cases xs with
  | nil =>
    obtain ⟨rfl, rfl⟩ := Prod.mk.inj h
    simp
  | cons x xs =>
    rw [takeIf] at h
    split at h
    · next hx =>
      obtain ⟨rfl, rfl⟩ := Prod.mk.inj h
      simpa using hx
    · next hx =>
      obtain ⟨rfl, rfl⟩ := Prod.mk.inj h
      simpa using hx

lemma forall_head?_append {ys : List α} {z : Option α} (hy : ∀ x ∈ ys.head?, p x = false)
    (hz : ∀ x ∈ z, p x = false) : ∀ x ∈ (ys ++ z.toList).head?, p x = false := by
  cases ys with
  | nil =>
    intro x hx
    exact hz x (by simpa using hx)
  | cons y ys => exact hy

lemma takeIf_cases (p : α → Bool) (xs : List α) :
    (takeIf p xs).2 = xs ∨ (takeIf p xs).2 = xs.tail := by
  cases xs with
  | nil => exact .inl rfl
  | cons x xs =>
    rw [takeIf]
    split
    · exact .inr rfl
    · exact .inl rfl

lemma takeIf_map {β : Type} {p : β → Bool} (f : α → β) (xs : List α) :
    takeIf p (xs.map f) = ((takeIf (p ∘ f) xs).1.map f, (takeIf (p ∘ f) xs).2.map f) := by
  cases xs with
  | nil => rfl
  | cons x xs =>
    rw [List.map_cons, takeIf, takeIf, Function.comp_apply]
    split <;> rfl

def After (p : α → Bool) (q : List α → Prop) (xs : List α) : Prop :=
  ∃ x : Option α, ∃ ys, xs = x.toList ++ ys ∧ (∀ y ∈ x, p y = true) ∧ q ys

variable {q : List α → Prop}

lemma After.tail (ht : ∀ ys, q ys → q ys.tail) (h : After p q xs) : After p q xs.tail := by
  obtain ⟨x, ys, rfl, -, hq⟩ := h
  cases x with
  | none => exact ⟨none, ys.tail, rfl, by simp, ht ys hq⟩
  | some x => exact ⟨none, ys, rfl, by simp, hq⟩

lemma After.takeIf (ht : ∀ ys, q ys → q ys.tail) (h : After p q xs) : q (takeIf p xs).2 := by
  obtain ⟨x, ys, rfl, hp, hq⟩ := h
  cases x with
  | none =>
    rw [Option.toList_none, List.nil_append]
    rcases takeIf_cases p ys with he | he
    · rwa [he]
    · rw [he]
      exact ht ys hq
  | some x =>
    rw [Option.toList_some, List.singleton_append, BracketQuery.takeIf, if_pos (hp x rfl)]
    exact hq

end

namespace FilterGrammar

/-- The contents of the brackets that a text begins with, each up to the next `]`, and the text that
comes after them. -/
def brackets : List Char → List (List Char) × List Char
  | '[' :: s =>
    match h : s.dropWhile (· != ']') with
    | [] => ([], '[' :: s)
    | _ :: r =>
      have : r.length < s.length + 1 := by
        have hle := (List.dropWhile_suffix (· != ']') (l := s)).length_le
        rw [h, List.length_cons] at hle
        omega
      let next := brackets r
      (s.takeWhile (· != ']') :: next.1, next.2)
  | s => ([], s)
termination_by s => s.length

lemma dropWhile_append_cons {x : List Char} {d : Char} (t : List Char) (hx : d ∉ x) :
    (x ++ d :: t).dropWhile (· != d) = d :: t ∧ (x ++ d :: t).takeWhile (· != d) = x := by
  have hne : ∀ c ∈ x, (c != d) = true := by
    intro c hc
    rw [bne_iff_ne]
    rintro rfl
    exact hx hc
  rw [List.dropWhile_append_of_pos hne, List.takeWhile_append_of_pos hne]
  simp

lemma brackets_of_ne {s : List Char} (hs : s.head? ≠ some '[') : brackets s = ([], s) := by
  rw [brackets.eq_def]
  split
  · exact absurd rfl hs
  · rfl

lemma brackets_cons {x : List Char} (t : List Char) (hx : ']' ∉ x) :
    brackets (enclosed x ++ t) = (x :: (brackets t).1, (brackets t).2) := by
  obtain ⟨hd, ht⟩ := dropWhile_append_cons t hx
  rw [enclosed, List.cons_append, List.cons_append, List.append_assoc, List.singleton_append,
    brackets]
  split
  · next h =>
    rw [hd] at h
    cases h
  · next h =>
    rw [hd] at h
    obtain ⟨rfl, rfl⟩ := List.cons.inj h
    rw [ht]

lemma brackets_enclosed {xs : List (List Char)} {t : List Char} (hx : ∀ x ∈ xs, ']' ∉ x)
    (ht : t.head? ≠ some '[') : brackets (xs.flatMap enclosed ++ t) = (xs, t) := by
  induction xs with
  | nil => exact brackets_of_ne ht
  | cons x xs ih =>
    rw [List.flatMap_cons, List.append_assoc, brackets_cons _ (hx x (by simp)),
      ih fun y hy => hx y (by simp [hy])]

lemma flatMap_brackets (s : List Char) : (brackets s).1.flatMap enclosed ++ (brackets s).2 = s := by
  fun_induction brackets s with
  | case1 s h => rfl
  | case2 s c r h hlt next ih =>
    have hs := List.takeWhile_append_dropWhile (p := (· != ']')) (l := s)
    have hc := List.head?_dropWhile_not (· != ']') s
    rw [h] at hs hc
    obtain rfl : c = ']' := by simpa using hc
    rw [List.flatMap_cons, List.append_assoc, ih, enclosed]
    simpa using hs
  | case3 s h => rfl

def isPlain (x : List Char) : Bool :=
  !x.isEmpty && x.all fun c => c != '[' && c != ']' && c != '$'

def letters : List Char := "abcdefghijklmnopqrstuvwxyz".toList

def isName (x : List Char) : Bool :=
  x.head?.any fun c => c == '_' || letters.any fun l => Text.foldsTo [l] [c]

def isIndex (x : List Char) : Bool := x.all Text.decimalDigits.contains

lemma contains_segmentChars_iff {c : Char} :
    segmentChars.contains c = true ↔ c ≠ '[' ∧ c ≠ ']' ∧ c ≠ '$' := by
  refine ⟨fun h => ⟨?_, ?_, ?_⟩, fun h => contains_segmentChars h.1 h.2.1 h.2.2⟩ <;>
  · rintro rfl
    revert h
    decide

lemma isPlain_iff {x : List Char} :
    isPlain x = true ↔ x ≠ [] ∧ ∀ c ∈ x, segmentChars.contains c = true := by
  simp only [isPlain, Bool.and_eq_true, Bool.not_eq_true', List.isEmpty_eq_false_iff,
    List.all_eq_true, bne_iff_ne, contains_segmentChars_iff, and_assoc]

lemma of_isMarked {ws : List String} {x : List Char} (h : isMarked ws x = true) :
    isPlain x = false ∧ x = '$' :: x.tail ∧ isToken ws x.tail = true := by
  unfold isMarked at h
  split at h
  · exact ⟨by simp [isPlain], rfl, h⟩
  · cases h

lemma not_isMarked_of_isPlain {ws : List String} {x : List Char} (h : isPlain x = true) :
    isMarked ws x = false := by
  rw [Bool.eq_false_iff]
  intro hm
  rw [(of_isMarked hm).1] at h
  cases h

lemma contains_ofRanges_foldCase {a : Nat × Nat} {ls : List Char} (ha : a.1 ≤ a.2) (c : Char) :
    (CharSet.ofRanges (a :: ls.flatMap fun l => (CharSet.single l).foldCase.ranges)).contains c =
      (CharSet.covers c.toNat a || ls.any fun l => Text.foldsTo [l] [c]) := by
  have hord : ∀ r ∈ a :: ls.flatMap fun l => (CharSet.single l).foldCase.ranges, r.1 ≤ r.2 := by
    intro r hr
    rcases List.mem_cons.mp hr with rfl | hr
    · exact ha
    · obtain ⟨l, -, hr⟩ := List.mem_flatMap.mp hr
      exact CharSet.foldCase_single_ordered l r hr
  have hany := CharSet.any_covers_foldl c.toNat hord (List.forall_mem_nil _)
  rw [List.any_nil, Bool.false_or, List.any_cons, List.any_flatMap] at hany
  have hfold (l : Char) : Text.foldsTo [l] [c] =
      (CharSet.single l).foldCase.ranges.any (CharSet.covers c.toNat) := by
    rw [Text.foldsTo, Text.foldsTo, Bool.and_true]
    rfl
  simp only [hfold]
  exact hany

lemma nameStart_eq : nameStart = .ofRanges
    ((0x5F, 0x5F) :: letters.flatMap fun l => (CharSet.single l).foldCase.ranges) := by
  decide +kernel

lemma contains_nameStart (c : Char) :
    nameStart.contains c = (c == '_' || letters.any fun l => Text.foldsTo [l] [c]) := by
  rw [nameStart_eq, contains_ofRanges_foldCase (by simp), ← CharSet.contains_single '_' c]
  simp [CharSet.contains, CharSet.single, CharSet.covers]

lemma isName_cons (c : Char) (x : List Char) : isName (c :: x) = nameStart.contains c := by
  rw [contains_nameStart]
  rfl

lemma exists_cons_of_isName {x : List Char} (hx : isPlain x = true) (hn : isName x = true) :
    ∃ c s, x = c :: s ∧ nameStart.contains c = true ∧
      ∀ d ∈ s, segmentChars.contains d = true := by
  obtain ⟨hne, hall⟩ := isPlain_iff.mp hx
  obtain ⟨c, s, rfl⟩ := List.exists_cons_of_ne_nil hne
  rw [isName_cons] at hn
  exact ⟨c, s, rfl, hn, (List.forall_mem_cons.mp hall).2⟩

lemma not_nameStart_of_not_isName {x : List Char} (h : isName x = false) :
    ∀ c ∈ x.head?, nameStart.contains c = false := by
  intro c hc
  obtain ⟨s, rfl⟩ := List.head?_eq_some_iff.mp hc
  rwa [isName_cons] at h

lemma not_isName_of_isMarked {ws : List String} {x : List Char} (h : isMarked ws x = true) :
    isName x = false := by
  rw [(of_isMarked h).2.1, isName_cons]
  decide

lemma not_isIndex_of_isMarked {ws : List String} {x : List Char} (h : isMarked ws x = true) :
    isIndex x = false := by
  rw [(of_isMarked h).2.1]
  exact List.all_eq_false.mpr ⟨'$', List.mem_cons_self, by decide +kernel⟩

end FilterGrammar

open FilterGrammar

namespace FilterPair

/--
The pair with these brackets and this value. The keyword comes first, then a conjunction, then any
plain texts, then an operator. The first plain text is the member if it is a name, the one after it
is the index if it is a number, and the others are the path.
-/
def ofContents? (keyword : String) (xs : List (List Char)) (value : List Char) :
    Option FilterPair :=
  let kind := takeIf (Text.foldsTo keyword.toList) xs
  let conjunction := takeIf (isMarked conjunctionTokens) kind.2
  let operator := takeIf (isMarked operatorTokens) (conjunction.2.dropWhile isPlain)
  let member := takeIf isName (conjunction.2.takeWhile isPlain)
  let index := takeIf isIndex member.2
  if operator.2.isEmpty then
    some
      { kind := kind.1.map String.ofList
        conjunction := conjunction.1.map fun x => String.ofList x.tail
        member := member.1.map String.ofList
        index := index.1.map String.ofList
        segments := index.2.map String.ofList
        operator := operator.1.map fun x => String.ofList x.tail
        value := String.ofList value }
  else none

variable {keyword : String} {xs : List (List Char)} {value : List Char} {p : FilterPair}

lemma contentOf_map_ofList (x : Option (List Char)) :
    contentOf [] (x.map String.ofList) = x.toList := by
  cases x <;> simp [contentOf]

lemma contentOf_map_tail {ws : List String} {x : Option (List Char)}
    (h : ∀ y ∈ x, isMarked ws y = true) :
    contentOf ['$'] (x.map fun y => String.ofList y.tail) = x.toList := by
  cases x with
  | none => rfl
  | some y =>
    have hy := (of_isMarked (h y rfl)).2.1
    simpa [contentOf] using hy.symm

/-- The brackets of a pair: one or none for each part, and any number for the path. -/
structure Parts where
  kind : Option (List Char)
  conjunction : Option (List Char)
  member : Option (List Char)
  index : Option (List Char)
  segments : List (List Char)
  operator : Option (List Char)

namespace Parts

def toPair (a : Parts) (value : List Char) : FilterPair where
  kind := a.kind.map String.ofList
  conjunction := a.conjunction.map fun x => String.ofList x.tail
  member := a.member.map String.ofList
  index := a.index.map String.ofList
  segments := a.segments.map String.ofList
  operator := a.operator.map fun x => String.ofList x.tail
  value := String.ofList value

def plainContents (a : Parts) : List (List Char) :=
  a.member.toList ++ (a.index.toList ++ a.segments)

/-- Each part is what its bracket can be, and one is missing only if the next bracket cannot be it. -/
structure IsTaken (keyword : String) (a : Parts) : Prop where
  kind : ∀ x ∈ a.kind, Text.foldsTo keyword.toList x = true
  noKind : a.kind = none →
    ∀ x ∈ (a.conjunction.toList ++ (a.plainContents ++ a.operator.toList)).head?,
      Text.foldsTo keyword.toList x = false
  conjunction : ∀ x ∈ a.conjunction, isMarked conjunctionTokens x = true
  noConjunction : a.conjunction = none →
    ∀ x ∈ (a.plainContents ++ a.operator.toList).head?, isMarked conjunctionTokens x = false
  plain : ∀ x ∈ a.plainContents, isPlain x = true
  member : ∀ x ∈ a.member, isName x = true
  noMember : a.member = none → ∀ x ∈ (a.index.toList ++ a.segments).head?, isName x = false
  index : ∀ x ∈ a.index, isIndex x = true
  noIndex : a.index = none → ∀ x ∈ a.segments.head?, isIndex x = false
  operator : ∀ x ∈ a.operator, isMarked operatorTokens x = true

section

variable {a : Parts} (h : a.IsTaken keyword) (value : List Char)

include h

lemma IsTaken.pathContents_toPair :
    (a.toPair value).pathContents = a.segments ++ a.operator.toList := by
  simp [pathContents, toPair, contentOf_map_tail h.operator]

lemma IsTaken.indexContents_toPair :
    (a.toPair value).indexContents = a.index.toList ++ a.segments ++ a.operator.toList := by
  rw [indexContents, h.pathContents_toPair, toPair, contentOf_map_ofList, List.append_assoc]

lemma IsTaken.memberContents_toPair :
    (a.toPair value).memberContents = a.plainContents ++ a.operator.toList := by
  rw [memberContents, h.indexContents_toPair, toPair, contentOf_map_ofList, plainContents,
    List.append_assoc a.member.toList]

lemma IsTaken.conjunctionContents_toPair : (a.toPair value).conjunctionContents =
    a.conjunction.toList ++ (a.plainContents ++ a.operator.toList) := by
  rw [conjunctionContents, h.memberContents_toPair, toPair, contentOf_map_tail h.conjunction]

lemma IsTaken.isReadable_toPair (hv : ∀ c ∈ value, valueChars.contains c = true) :
    (a.toPair value).IsReadable keyword := by
  constructor
  case kind => exact Option.forall_mem_map.mpr fun x hx => by simpa using h.kind x hx
  case noKind =>
    rw [h.conjunctionContents_toPair]
    exact fun hn => h.noKind (Option.map_eq_none_iff.mp hn)
  case conjunction =>
    exact Option.forall_mem_map.mpr fun x hx => by simpa using (of_isMarked (h.conjunction x hx)).2.2
  case noConjunction =>
    rw [h.memberContents_toPair]
    exact fun hn => h.noConjunction (Option.map_eq_none_iff.mp hn)
  case member =>
    refine Option.forall_mem_map.mpr fun x hx => ?_
    have hplain := h.plain x (by simp [plainContents, Option.mem_def.mp hx])
    simpa using exists_cons_of_isName hplain (h.member x hx)
  case noMember =>
    rw [h.indexContents_toPair]
    intro hn x hx
    have hoperator : ∀ y ∈ a.operator, isName y = false := fun y hy =>
      not_isName_of_isMarked (h.operator y hy)
    have hfirst := forall_head?_append (h.noMember (Option.map_eq_none_iff.mp hn)) hoperator
    exact not_nameStart_of_not_isName (hfirst x hx)
  case index =>
    refine Option.forall_mem_map.mpr fun x hx => ?_
    obtain ⟨hne, -⟩ := isPlain_iff.mp (h.plain x (by simp [plainContents, Option.mem_def.mp hx]))
    have hall := List.all_eq_true.mp (h.index x hx)
    simpa using ⟨hne, hall⟩
  case noIndex =>
    rw [h.pathContents_toPair]
    intro hn x hx
    have hoperator : ∀ y ∈ a.operator, isIndex y = false := fun y hy =>
      not_isIndex_of_isMarked (h.operator y hy)
    have hfirst := forall_head?_append (h.noIndex (Option.map_eq_none_iff.mp hn)) hoperator
    simpa [isIndex] using hfirst x hx
  case segments =>
    refine List.forall_mem_map.mpr fun x hx => ?_
    simpa using isPlain_iff.mp (h.plain x (by simp [plainContents, hx]))
  case operator =>
    exact Option.forall_mem_map.mpr fun x hx => by simpa using (of_isMarked (h.operator x hx)).2.2
  case value => simpa [toPair] using hv

end

end Parts

lemma exists_isTaken (h : ofContents? keyword xs value = some p) :
    ∃ a : Parts, a.IsTaken keyword ∧ p = a.toPair value ∧
      a.kind.toList ++ (a.conjunction.toList ++ (a.plainContents ++ a.operator.toList)) = xs := by
  obtain ⟨k, xs₁, hk⟩ : ∃ k ys, takeIf (Text.foldsTo keyword.toList) xs = (k, ys) := ⟨_, _, rfl⟩
  obtain ⟨c, xs₂, hc⟩ : ∃ c ys, takeIf (isMarked conjunctionTokens) xs₁ = (c, ys) := ⟨_, _, rfl⟩
  obtain ⟨o, rest, ho⟩ :
      ∃ o ys, takeIf (isMarked operatorTokens) (xs₂.dropWhile isPlain) = (o, ys) := ⟨_, _, rfl⟩
  obtain ⟨m, xs₃, hm⟩ : ∃ m ys, takeIf isName (xs₂.takeWhile isPlain) = (m, ys) := ⟨_, _, rfl⟩
  obtain ⟨i, xs₄, hi⟩ : ∃ i ys, takeIf isIndex xs₃ = (i, ys) := ⟨_, _, rfl⟩
  simp only [ofContents?, hk, hc, ho, hm, hi, Option.ite_none_right_eq_some, Option.some.injEq,
    List.isEmpty_iff] at h
  obtain ⟨rfl, hp⟩ := h
  obtain ⟨rfl, hk₂, hk₃⟩ := takeIf_spec hk
  obtain ⟨rfl, hc₂, hc₃⟩ := takeIf_spec hc
  obtain ⟨ho₁, ho₂, -⟩ := takeIf_spec ho
  obtain ⟨hm₁, hm₂, hm₃⟩ := takeIf_spec hm
  obtain ⟨rfl, hi₂, hi₃⟩ := takeIf_spec hi
  have hsplit : (m.toList ++ (i.toList ++ xs₄)) ++ o.toList = xs₂ := by
    rw [hm₁, ← List.append_nil o.toList, ho₁, List.takeWhile_append_dropWhile]
  refine ⟨⟨k, c, m, i, xs₄, o⟩, ?_, hp.symm, by rw [Parts.plainContents, hsplit]⟩
  constructor
  case kind => exact hk₂
  case noKind => rwa [Parts.plainContents, hsplit]
  case conjunction => exact hc₂
  case noConjunction => rwa [Parts.plainContents, hsplit]
  case plain =>
    rw [Parts.plainContents, hm₁]
    exact fun x hx => List.all_eq_true.mp List.all_takeWhile x hx
  case member => exact hm₂
  case noMember => exact hm₃
  case index => exact hi₂
  case noIndex => exact hi₃
  case operator => exact ho₂

lemma isReadable_of_ofContents? (h : ofContents? keyword xs value = some p)
    (hv : ∀ c ∈ value, valueChars.contains c = true) : p.IsReadable keyword := by
  obtain ⟨a, ha, rfl, -⟩ := exists_isTaken h
  exact ha.isReadable_toPair value hv

lemma contents_of_ofContents? (h : ofContents? keyword xs value = some p) :
    contentOf [] p.kind ++ p.conjunctionContents = xs ∧ p.value.toList = value := by
  obtain ⟨a, ha, rfl, rfl⟩ := exists_isTaken h
  refine ⟨?_, String.toList_ofList⟩
  rw [ha.conjunctionContents_toPair, Parts.toPair, contentOf_map_ofList]

lemma ofContents?_name {x : List Char} {o : Option (List Char)}
    (hk : Text.foldsTo keyword.toList x = false)
    (hn : isName x = true) (hx : ∀ y ∈ x :: xs, isPlain y = true)
    (ho : ∀ y ∈ o, isMarked operatorTokens y = true) (v : List Char) :
    ofContents? keyword (x :: xs ++ o.toList) v =
      some ⟨none, none, some (String.ofList x), (takeIf isIndex xs).1.map String.ofList,
        (takeIf isIndex xs).2.map String.ofList, o.map fun y => String.ofList y.tail,
        String.ofList v⟩ := by
  have hkind : takeIf (Text.foldsTo keyword.toList) (x :: xs ++ o.toList) =
      (none, x :: xs ++ o.toList) := by
    rw [List.cons_append, takeIf, hk]
    rfl
  have hconjunction : takeIf (isMarked conjunctionTokens) (x :: xs ++ o.toList) =
      (none, x :: xs ++ o.toList) := by
    rw [List.cons_append, takeIf, not_isMarked_of_isPlain (hx x List.mem_cons_self)]
    rfl
  have hstop : o.toList.takeWhile isPlain = [] ∧ o.toList.dropWhile isPlain = o.toList := by
    cases o with
    | none => exact ⟨rfl, rfl⟩
    | some y => simp [(of_isMarked (ho y rfl)).1]
  have hfirst : (x :: xs ++ o.toList).takeWhile isPlain = x :: xs := by
    rw [List.takeWhile_append_of_pos hx, hstop.1, List.append_nil]
  have hrest : (x :: xs ++ o.toList).dropWhile isPlain = o.toList := by
    rw [List.dropWhile_append_of_pos hx, hstop.2]
  have hmember : takeIf isName (x :: xs) = (some x, xs) := by rw [takeIf, if_pos hn]
  have hoperator : takeIf (isMarked operatorTokens) o.toList = (o, []) := by
    cases o with
    | none => rfl
    | some y => rw [Option.toList_some, takeIf, if_pos (ho y rfl)]
  simp only [ofContents?, hkind, hconjunction, hfirst, hrest, hmember, hoperator]
  simp

def IsPath (xs : List (List Char)) : Prop :=
  ∃ ys : List (List Char), ∃ x : Option (List Char), xs = ys ++ x.toList ∧
    (∀ y ∈ ys, isPlain y = true) ∧ ∀ y ∈ x, isMarked operatorTokens y = true

lemma IsPath.tail (h : IsPath xs) : IsPath xs.tail := by
  obtain ⟨ys, x, rfl, hy, hx⟩ := h
  cases ys with
  | nil => exact ⟨[], none, by cases x <;> rfl, by simp, by simp⟩
  | cons y ys => exact ⟨ys, x, rfl, fun z hz => hy z (by simp [hz]), hx⟩

lemma IsPath.takeIf (h : IsPath xs) :
    (takeIf (isMarked operatorTokens) (xs.dropWhile isPlain)).2 = [] := by
  obtain ⟨ys, x, rfl, hy, hx⟩ := h
  rw [List.dropWhile_append_of_pos hy]
  cases x with
  | none => rfl
  | some x =>
    have hm := hx x rfl
    rw [Option.toList_some, List.dropWhile_cons_of_neg (by simp [(of_isMarked hm).1]),
      BracketQuery.takeIf, if_pos hm]

/-- The brackets of a pair, in the order that the grammar has them. -/
def IsContents (keyword : String) : List (List Char) → Prop :=
  After (Text.foldsTo keyword.toList) (After (isMarked conjunctionTokens) IsPath)

lemma ofContents?_isSome (value : List Char) (h : IsContents keyword xs) :
    (ofContents? keyword xs value).isSome = true := by
  have htail : ∀ ys, IsPath ys → IsPath ys.tail := fun _ => IsPath.tail
  have hbody : After (isMarked conjunctionTokens) IsPath _ :=
    After.takeIf (fun _ hq => hq.tail htail) h
  simp [ofContents?, (hbody.takeIf htail).takeIf]

/-- The pair that a text begins with: the key in any case, brackets, an equals sign and the value,
which goes up to the next ampersand. -/
def read? (key keyword : String) (s : List Char) : Option (FilterPair × List Char) :=
  let n := key.toList.length
  if Text.foldsTo key.toList (s.take n) then
    match brackets (s.drop n) with
    | (xs, '=' :: t) =>
      (ofContents? keyword xs (t.takeWhile (· != '&'))).map (·, t.dropWhile (· != '&'))
    | _ => none
  else none

def next? (key keyword : String) (isStart : Bool) (s : List Char) :
    Option (FilterPair × List Char) :=
  (if isStart then read? key keyword s else none).or <|
    match s with
    | [] => none
    | c :: r => (if c = '&' then read? key keyword r else none).or (next? key keyword false r)

variable {key : String} {s t : List Char} {r : FilterPair × List Char}

lemma read?_append {k : List Char} (hk : Text.foldsTo key.toList k = true)
    (hx : ∀ x ∈ xs, ']' ∉ x) : read? key keyword (k ++ (xs.flatMap enclosed ++ '=' :: t)) =
      (ofContents? keyword xs (t.takeWhile (· != '&'))).map (·, t.dropWhile (· != '&')) := by
  have hlen := Text.foldsTo_length hk
  have hb := brackets_enclosed (t := '=' :: t) hx (by simp)
  rw [read?]
  simp only [List.take_left' hlen, List.drop_left' hlen, hk, if_true, hb]

lemma read?_isSome {k : List Char} (hk : Text.foldsTo key.toList k = true)
    (hx : ∀ x ∈ xs, ']' ∉ x) (h : IsContents keyword xs) :
    (read? key keyword (k ++ (xs.flatMap enclosed ++ '=' :: t))).isSome = true := by
  rw [read?_append hk hx, Option.isSome_map]
  exact ofContents?_isSome _ h

lemma textOf_pieces (p : FilterPair) (k : String) :
    textOf (p.pieces k) = k.toList ++ ((contentOf [] p.kind ++ p.conjunctionContents).flatMap
      enclosed ++ '=' :: p.value.toList) := by
  simp [pieces, textOf_part, conjunctionContents, memberContents, indexContents, pathContents,
    pathText]

lemma read?_spec (h : read? key keyword s = some (p, t)) :
    ∃ k : String, Text.foldsTo key.toList k.toList = true ∧ s = textOf (p.pieces k) ++ t ∧
      p.IsReadable keyword ∧ ∀ c ∈ t.head?, valueChars.contains c = false := by
  rw [read?, Option.ite_none_right_eq_some] at h
  obtain ⟨hk, h⟩ := h
  split at h
  · next xs v hb =>
    obtain ⟨q, hq, he⟩ := Option.map_eq_some_iff.mp h
    obtain ⟨rfl, rfl⟩ := Prod.mk.inj he
    have hv : ∀ c ∈ v.takeWhile (· != '&'), valueChars.contains c = true := fun c hc =>
      contains_valueChars (by simpa using List.all_eq_true.mp List.all_takeWhile c hc)
    obtain ⟨hcontents, hvalue⟩ := contents_of_ofContents? hq
    have hbrackets := flatMap_brackets (s.drop key.toList.length)
    rw [hb] at hbrackets
    refine ⟨String.ofList (s.take key.toList.length), by simpa using hk, ?_,
      isReadable_of_ofContents? hq hv, ?_⟩
    · rw [textOf_pieces, hcontents, hvalue, String.toList_ofList, List.append_assoc,
        List.append_assoc, List.cons_append, List.takeWhile_append_dropWhile, hbrackets,
        List.take_append_drop]
    · intro c hc
      have := List.head?_dropWhile_not (· != '&') v
      rw [Option.mem_def.mp hc] at this
      obtain rfl : c = '&' := by simpa using this
      decide
  · cases h

lemma length_textOf_pieces (p : FilterPair) (k : String) : 0 < (textOf (p.pieces k)).length := by
  rw [textOf_pieces, List.length_append, List.length_append, List.length_cons]
  omega

lemma length_of_read? (h : read? key keyword s = some (p, t)) : t.length < s.length := by
  obtain ⟨k, -, rfl, -⟩ := read?_spec h
  have := length_textOf_pieces p k
  rw [List.length_append]
  omega

lemma read?_of_next? {isStart : Bool} (h : next? key keyword isStart s = some r) :
    ∃ u, u <:+ s ∧ read? key keyword u = some r := by
  induction s generalizing isStart with
  | nil =>
    rw [next?, Option.or_none, Option.ite_none_right_eq_some] at h
    exact ⟨[], List.suffix_refl _, h.2⟩
  | cons c s ih =>
    rw [next?, Option.or_eq_some_iff, Option.or_eq_some_iff, Option.ite_none_right_eq_some,
      Option.ite_none_right_eq_some] at h
    rcases h with ⟨-, h⟩ | ⟨-, ⟨-, h⟩ | ⟨-, h⟩⟩
    · exact ⟨c :: s, List.suffix_refl _, h⟩
    · exact ⟨s, List.suffix_cons c s, h⟩
    · obtain ⟨u, hu, hr⟩ := ih h
      exact ⟨u, hu.trans (List.suffix_cons c s), hr⟩

lemma length_of_next? {isStart : Bool} (h : next? key keyword isStart s = some (p, t)) :
    t.length < s.length := by
  obtain ⟨u, hu, hr⟩ := read?_of_next? h
  exact Nat.lt_of_lt_of_le (length_of_read? hr) hu.length_le

def pairsFrom (key keyword : String) (isStart : Bool) (s : List Char) : List FilterPair :=
  match h : next? key keyword isStart s with
  | none => []
  | some (p, t) =>
    have := length_of_next? h
    p :: pairsFrom key keyword false t
termination_by s.length

variable {isStart : Bool}

lemma isReadable_of_next? (h : next? key keyword isStart s = some (p, t)) :
    p.IsReadable keyword := by
  obtain ⟨u, -, hr⟩ := read?_of_next? h
  obtain ⟨-, -, -, hp, -⟩ := read?_spec hr
  exact hp

lemma pairsFrom_of_none (h : next? key keyword isStart s = none) :
    pairsFrom key keyword isStart s = [] := by
  rw [pairsFrom]
  split
  · rfl
  · next hs =>
    rw [h] at hs
    cases hs

lemma pairsFrom_of_some (h : next? key keyword isStart s = some (p, t)) :
    pairsFrom key keyword isStart s = p :: pairsFrom key keyword false t := by
  rw [pairsFrom]
  split
  · next hs =>
    rw [h] at hs
    cases hs
  · next hs =>
    rw [h] at hs
    cases hs
    rfl

lemma pairsFrom_eq_singleton {k v : List Char} (hk : Text.foldsTo key.toList k = true)
    (hx : ∀ x ∈ xs, ']' ∉ x) (hv : '&' ∉ v) (hp : ofContents? keyword xs v = some p) :
    pairsFrom key keyword true (k ++ (xs.flatMap enclosed ++ '=' :: v)) = [p] := by
  have hend : next? key keyword false [] = none := rfl
  have hne : ∀ c ∈ v, (c != '&') = true := by
    intro c hc
    rw [bne_iff_ne]
    rintro rfl
    exact hv hc
  have hread : read? key keyword (k ++ (xs.flatMap enclosed ++ '=' :: v)) = _ :=
    read?_append (t := v) hk hx
  rw [List.takeWhile_eq_self_iff.mpr hne, List.dropWhile_eq_nil_iff.mpr hne, hp] at hread
  have hnext : next? key keyword true (k ++ (xs.flatMap enclosed ++ '=' :: v)) = some (p, []) := by
    rw [next?.eq_def, if_pos rfl, hread]
    rfl
  rw [pairsFrom_of_some hnext, pairsFrom_of_none hend]

lemma isReadable_of_mem_pairsFrom (h : p ∈ pairsFrom key keyword isStart s) :
    p.IsReadable keyword := by
  fun_induction pairsFrom key keyword isStart s with
  | case1 isStart s hn => cases h
  | case2 isStart s q t hn hlt ih =>
    rcases List.mem_cons.mp h with rfl | h
    · exact isReadable_of_next? hn
    · exact ih h

end FilterPair

end BracketQuery
