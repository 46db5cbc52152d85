import BracketQuery.Text.Blank
import BracketQuery.Text.Split
import Mathlib.Tactic.Lemma

/-! Pieces of a text that is put together from them, and of any other. -/

namespace BracketQuery.Text

lemma splitOn_intercalate {d : Char} {xs : List (List Char)} (hne : xs ≠ [])
    (h : ∀ x ∈ xs, d ∉ x) : splitOn d ([d].intercalate xs) = xs := by
  have hd {x : List Char} (hx : d ∉ x) : ∀ c ∈ x, (c == d) = false := by
    intro c hc
    rw [beq_eq_false_iff_ne]
    rintro rfl
    exact hx hc
  unfold splitOn
  induction xs with
  | nil => exact absurd rfl hne
  | cons x xs ih =>
    cases xs with
    | nil =>
      rw [List.intercalate_singleton, splitWhere_of_forall (hd (h x (by simp)))]
    | cons y xs =>
      rw [List.intercalate_cons_cons, List.append_assoc, List.singleton_append,
        splitWhere_append_cons _ (hd (h x (by simp))) (by simp),
        ih (by simp) fun z hz => h z (by simp [hz])]

lemma splitOn_append_cons (d : Char) (s t : List Char) :
    splitOn d (s ++ d :: t) = splitOn d s ++ splitOn d t := by
  unfold splitOn
  induction s with
  | nil => simp [splitWhere]
  | cons c s ih =>
    rw [List.cons_append, splitWhere, splitWhere, ih]
    split
    · rfl
    · cases hs : splitWhere (· == d) s with
      | nil => exact absurd hs (splitWhere_ne_nil _ s)
      | cons w ws => rfl

lemma exists_splitOn_intercalate {d : Char} (xs : List (List Char)) {ys : List (List Char)}
    (hne : ys ≠ []) (h : ∀ y ∈ ys, d ∉ y) :
    ∃ zs, splitOn d ([d].intercalate (xs ++ ys)) = zs ++ ys := by
  induction xs with
  | nil => exact ⟨[], splitOn_intercalate hne h⟩
  | cons x xs ih =>
    obtain ⟨zs, hz⟩ := ih
    obtain ⟨y, rest, hy⟩ := List.exists_cons_of_ne_nil (List.append_ne_nil_of_right_ne_nil xs hne)
    refine ⟨splitOn d x ++ zs, ?_⟩
    rw [List.cons_append, hy, List.intercalate_cons_cons, List.append_assoc, List.singleton_append,
      splitOn_append_cons, ← hy, hz, List.append_assoc]

lemma mem_intercalate {d c : Char} {xs : List (List Char)} (h : c ∈ [d].intercalate xs) :
    c = d ∨ ∃ x ∈ xs, c ∈ x := by
  induction xs with
  | nil => cases h
  | cons x xs ih =>
    cases xs with
    | nil =>
      rw [List.intercalate_singleton] at h
      exact .inr ⟨x, by simp, h⟩
    | cons y xs =>
      simp only [List.intercalate_cons_cons, List.mem_append, List.mem_singleton] at h
      rcases h with (h | rfl) | h
      · exact .inr ⟨x, by simp, h⟩
      · exact .inl rfl
      · rcases ih h with rfl | ⟨z, hz, hc⟩
        · exact .inl rfl
        · exact .inr ⟨z, by simp [hz], hc⟩

lemma mem_head?_intercalate {d c : Char} {xs : List (List Char)}
    (h : c ∈ ([d].intercalate xs).head?) : c = d ∨ ∃ x ∈ xs, c ∈ x.head? := by
  match xs with
  | [] => cases h
  | [x] =>
    rw [List.intercalate_singleton] at h
    exact .inr ⟨x, List.mem_cons_self, h⟩
  | x :: y :: xs =>
    cases x with
    | nil =>
      cases h
      exact .inl rfl
    | cons e x => exact .inr ⟨e :: x, List.mem_cons_self, h⟩

lemma mem_getLast?_intercalate {d c : Char} {xs : List (List Char)}
    (h : c ∈ ([d].intercalate xs).getLast?) : c = d ∨ ∃ x ∈ xs, c ∈ x.getLast? := by
  induction xs with
  | nil => cases h
  | cons x xs ih =>
    cases xs with
    | nil =>
      rw [List.intercalate_singleton] at h
      exact .inr ⟨x, List.mem_cons_self, h⟩
    | cons y xs =>
      rw [List.intercalate_cons_cons, List.getLast?_append, Option.mem_def, Option.or_eq_some_iff,
        List.getLast?_concat] at h
      rcases h with h | ⟨-, h⟩
      · exact (ih h).imp_right fun ⟨z, hz, hc⟩ => ⟨z, List.mem_cons_of_mem _ hz, hc⟩
      · exact .inl (Option.some.inj h).symm

lemma pieces_ne_nil (d : Char) (s : String) : pieces d s ≠ [] :=
  mt List.map_eq_nil_iff.mp (splitWhere_ne_nil _ s.toList)

lemma pieces_append (d : Char) (s t : String) :
    pieces d (s ++ String.singleton d ++ t) = pieces d s ++ pieces d t := by
  rw [pieces, String.toList_append, String.toList_append, String.toList_singleton, List.append_assoc,
    List.singleton_append, splitOn_append_cons, List.map_append]
  rfl

lemma pieces_of_not_mem {d : Char} {s : String} (h : d ∉ s.toList) : pieces d s = [s] := by
  have hd : ∀ c ∈ s.toList, (c == d) = false := by
    intro c hc
    rw [beq_eq_false_iff_ne]
    rintro rfl
    exact h hc
  rw [pieces, splitOn, splitWhere_of_forall hd]
  simp

lemma pieces_intercalate {d : Char} {vs : List String} (hne : vs ≠ [])
    (h : ∀ v ∈ vs, d ∉ v.toList) :
    pieces d (String.ofList ([d].intercalate (vs.map String.toList))) = vs := by
  rw [pieces, String.toList_ofList, splitOn_intercalate (by simpa using hne) (by simpa using h)]
  simp [Function.comp_def]

lemma flatten_splitWhere (p : Char → Bool) (s : List Char) :
    (splitWhere p s).flatten = s.filter fun c => !p c := by
  induction s with
  | nil => rfl
  | cons c s ih =>
    rw [splitWhere, List.filter_cons, ← ih]
    cases p c with
    | true => simp
    | false =>
      cases hs : splitWhere p s with
      | nil => exact absurd hs (splitWhere_ne_nil p s)
      | cons w ws => simp

lemma exists_mem_splitWhere_iff {p : Char → Bool} {s : List Char} {c : Char} :
    (∃ x ∈ splitWhere p s, c ∈ x) ↔ c ∈ s ∧ p c = false := by
  rw [← List.mem_flatten, flatten_splitWhere, List.mem_filter, Bool.not_eq_true']

lemma not_mem_of_mem_splitOn {d : Char} {s x : List Char} (hx : x ∈ splitOn d s) : d ∉ x := by
  intro hd
  have hf := (exists_mem_splitWhere_iff.mp ⟨x, hx, hd⟩).2
  simp at hf

lemma intercalate_splitOn (d : Char) (s : List Char) : [d].intercalate (splitOn d s) = s :=
  flatten_intersperse_splitOn d s

lemma any_piece_not_blank {d c : Char} {s : String} (hc : c ∈ s.toList) (hb : isBlank c = false)
    (hd : c ≠ d) : (pieces d s).all isBlankString = false := by
  obtain ⟨x, hx, hcx⟩ :=
    (exists_mem_splitWhere_iff (p := (· == d))).mpr ⟨hc, beq_eq_false_iff_ne.mpr hd⟩
  refine List.all_eq_false.mpr ⟨String.ofList x, List.mem_map_of_mem hx, ?_⟩
  rw [Bool.not_eq_true]
  exact List.all_eq_false.mpr ⟨c, by rwa [String.toList_ofList], by simp [hb]⟩

lemma not_isBlankString_of_piece {d : Char} {s x : String} (hx : x ∈ pieces d s)
    (h : isBlankString x = false) : isBlankString s = false := by
  obtain ⟨y, hy, rfl⟩ := List.mem_map.mp hx
  obtain ⟨c, hc, hb⟩ := List.all_eq_false.mp h
  rw [String.toList_ofList] at hc
  exact List.all_eq_false.mpr ⟨c, (exists_mem_splitWhere_iff.mp ⟨y, hy, hc⟩).1, hb⟩

end BracketQuery.Text
