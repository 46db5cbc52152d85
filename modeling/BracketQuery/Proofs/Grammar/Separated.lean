import BracketQuery.Proofs.Grammar.PairStart
import BracketQuery.Proofs.Percent
import BracketQuery.Proofs.Text.Split

/-! The texts between the ampersands of a query, each of which is matched for itself. -/

namespace BracketQuery

open FilterGrammar

namespace Pattern

open Cursor

def IsEnd (s : List Char) : Prop := ∀ c ∈ s.head?, c = '&'

lemma IsEnd.not_value {s : List Char} (h : IsEnd s) :
    ∀ c ∈ s.head?, valueChars.contains c = false := by
  intro c hc
  rw [h c hc]
  decide

/-- What a pattern makes of a text that has such an end: it takes all of the text, with the captures
of a match, or it has no way into it. -/
def Settles (q : Pattern) (x : List Char) : Option GrammarMatch → Prop
  | none => ∀ after, IsEnd after → q.Fails (x ++ after)
  | some m => ∃ ps, x ≠ [] ∧ textOf ps = x ∧ (ps.filterMap Piece.name).Nodup ∧
      m = ⟨(captured ps).reverse⟩ ∧ ∀ before after, IsEnd after → Reads before q ps after

def separated (xs : List (List Char)) : List Char := xs.flatMap ('&' :: ·)

lemma intercalate_cons (x : List Char) (xs : List (List Char)) :
    ['&'].intercalate (x :: xs) = x ++ separated xs := by
  induction xs generalizing x with
  | nil => simp [separated]
  | cons y xs ih =>
    rw [List.intercalate_cons_cons, ih]
    simp [separated]

lemma isEnd_separated (xs : List (List Char)) : IsEnd (separated xs) := by
  cases xs with
  | nil => nofun
  | cons x xs =>
    rintro c ⟨⟩
    rfl

lemma exists_append_of_isEnd {x y s t : List Char} (hy : '&' ∉ y) (hs : IsEnd s)
    (h : x ++ s = y ++ t) : ∃ z, x = y ++ z := by
  rcases List.append_eq_append_iff.mp h with ⟨z, hz, he⟩ | ⟨z, hz, -⟩
  · cases z with
    | nil => exact ⟨[], by simp [hz]⟩
    | cons c z =>
      obtain rfl := hs c (by simp [he])
      exact absurd (by simp [hz]) hy
  · exact ⟨z, hz⟩

lemma length_le_separated (xs : List (List Char)) : xs.length ≤ (separated xs).length := by
  induction xs with
  | nil => exact Nat.le_refl 0
  | cons x xs ih =>
    rw [separated, List.flatMap_cons, List.length_append, List.length_cons, List.length_cons]
    rw [separated] at ih
    omega

section

variable {p : Pattern} {c d : Cursor} {fuel : Nat} {last : Option Nat}

lemma searchFrom_congr (h : p.find? c.pos c.prev c.rest = p.find? d.pos d.prev d.rest)
    (hlt : ∀ y ∈ p.find? d.pos d.prev d.rest, y.1 < y.2.pos) :
    searchFrom p fuel last c = searchFrom p fuel last d := by
  cases fuel with
  | zero => rfl
  | succ fuel =>
    cases hy : p.find? d.pos d.prev d.rest with
    | none => rw [searchFrom, searchFrom, h, hy]
    | some y =>
      have hlt := hlt y hy
      rw [searchFrom_of_find? (h.trans hy) hlt, searchFrom_of_find? hy hlt]

end

section

variable {q : Pattern} {before x s : List Char}

lemma head?_run_of_fails : (before = [] → q.Fails s) →
    ((seq pairStart q).run none ⟨before.length, before.getLast?, s, [], []⟩).head? =
      match s with
      | [] => none
      | c :: r =>
        if c = '&' then (q.run none (between (before ++ ['&']) r [])).head? else none := by
  intro hb
  have hrun := head?_run_seq_pairStart q before s
  have hstart : (if before.isEmpty then (q.run none (between before s [])).head? else none) =
      none := by
    split
    · next he => rw [hb (List.isEmpty_iff.mp he) _ rfl, List.head?_nil]
    · rfl
  rwa [hstart, Option.none_or] at hrun

lemma find?_nil (hb : before = [] → q.Fails []) :
    (seq pairStart q).find? before.length before.getLast? [] = none := by
  rw [find?, head?_run_of_fails hb]
  rfl

lemma find?_ampersand (hb : before = [] → q.Fails ('&' :: s)) :
    (seq pairStart q).find? before.length before.getLast? ('&' :: s) =
      ((q.run none (between (before ++ ['&']) s [])).head?.map (before.length, ·)).or
        ((seq pairStart q).find? (before ++ ['&']).length (before ++ ['&']).getLast? s) := by
  rw [find?_eq, head?_run_of_fails hb]
  simp

lemma find?_skip (before : List Char) (hx : '&' ∉ x) (hb : before = [] → q.Fails (x ++ s)) :
    (seq pairStart q).find? before.length before.getLast? (x ++ s) =
      (seq pairStart q).find? (before ++ x).length (before ++ x).getLast? s := by
  induction x generalizing before with
  | nil => rw [List.nil_append, List.append_nil]
  | cons c x ih =>
    rw [List.mem_cons, not_or] at hx
    have hnext := ih (before ++ [c]) hx.2 (by simp)
    rw [find?_eq, head?_run_of_fails hb]
    simpa [Ne.symm hx.1] using hnext

variable {r : List Char → Option GrammarMatch} {xs : List (List Char)}

lemma find?_of_settles_none (hx : '&' ∉ x) (hr : q.Settles x none)
    (hb : before = [] → q.Fails (separated (x :: xs))) :
    (seq pairStart q).find? before.length before.getLast? (separated (x :: xs)) =
      (seq pairStart q).find? (before ++ '&' :: x).length (before ++ '&' :: x).getLast?
        (separated xs) := by
  have hrun := hr (separated xs) (isEnd_separated xs)
    (between (before ++ ['&']) (x ++ separated xs) []) rfl
  have hskip := find?_skip (q := q) (s := separated xs) (before ++ ['&']) hx (by simp)
  rw [separated, List.flatMap_cons, List.cons_append, ← separated] at hb ⊢
  rw [find?_ampersand hb, hrun, List.head?_nil, Option.map_none, Option.none_or, hskip]
  simp

lemma find?_of_reads {ps : List Piece} (hx : textOf ps = x)
    (hr : Reads (before ++ ['&']) q ps (separated xs))
    (hb : before = [] → q.Fails (separated (x :: xs))) :
    (seq pairStart q).find? before.length before.getLast? (separated (x :: xs)) =
      some (before.length, between (before ++ '&' :: x) (separated xs)
        (recordAll (before ++ ['&']) ps [])) := by
  have hrun := hr []
  rw [separated, List.flatMap_cons, List.cons_append, ← separated] at hb ⊢
  rw [hx] at hrun
  rw [find?_ampersand hb, hrun, Option.map_some, Option.some_or, List.append_assoc]
  rfl

lemma lt_of_mem_find?_separated (hx : ∀ x ∈ xs, '&' ∉ x ∧ q.Settles x (r x))
    (hb : before = [] → q.Fails (separated xs)) :
    ∀ y ∈ (seq pairStart q).find? before.length before.getLast? (separated xs), y.1 < y.2.pos := by
  induction xs generalizing before with
  | nil =>
    rw [separated, List.flatMap_nil, find?_nil hb]
    nofun
  | cons x xs ih =>
    rw [List.forall_mem_cons] at hx
    obtain ⟨⟨hamp, hr⟩, hx⟩ := hx
    cases hm : r x with
    | none =>
      rw [hm] at hr
      rw [find?_of_settles_none hamp hr hb]
      exact ih hx (by simp)
    | some m =>
      rw [hm] at hr
      obtain ⟨ps, -, htext, -, -, hread⟩ := hr
      rw [find?_of_reads htext (hread _ _ (isEnd_separated xs)) hb]
      rintro y ⟨⟩
      simp

lemma map_searchFrom_separated {fuel : Nat} {last : Option Nat} {spans : List Span}
    (hx : ∀ x ∈ xs, '&' ∉ x ∧ q.Settles x (r x)) (hb : before = [] → q.Fails (separated xs))
    (hf : xs.length < fuel) :
    (searchFrom (seq pairStart q) fuel last (between before (separated xs) spans)).map
        (fun d => (⟨d.spans.map (Span.captureIn (before ++ separated xs))⟩ : GrammarMatch)) =
      xs.filterMap r := by
  induction xs generalizing before fuel last spans with
  | nil =>
    obtain ⟨fuel, rfl⟩ : ∃ k, fuel = k + 1 := ⟨fuel - 1, by simp at hf; omega⟩
    rw [searchFrom, between_pos, between_prev, between_rest, separated, List.flatMap_nil,
      find?_nil hb]
    rfl
  | cons x xs ih =>
    rw [List.forall_mem_cons] at hx
    obtain ⟨⟨hamp, hr⟩, hx⟩ := hx
    rw [List.length_cons] at hf
    have hwhole : before ++ separated (x :: xs) = before ++ '&' :: x ++ separated xs := by
      simp [separated]
    rw [hwhole]
    cases hm : r x with
    | none =>
      rw [hm] at hr
      have hnext : searchFrom (seq pairStart q) fuel last
          (between before (separated (x :: xs)) spans) =
          searchFrom _ fuel last (between (before ++ '&' :: x) (separated xs) spans) :=
        searchFrom_congr (find?_of_settles_none hamp hr hb)
          (lt_of_mem_find?_separated hx (by simp))
      rw [hnext, List.filterMap_cons_none hm]
      exact ih hx (by simp) (by omega)
    | some m =>
      rw [hm] at hr
      obtain ⟨ps, -, htext, hnames, rfl, hread⟩ := hr
      obtain ⟨fuel, rfl⟩ : ∃ k, fuel = k + 1 := ⟨fuel - 1, by omega⟩
      have hfind := find?_of_reads htext (hread (before ++ ['&']) _ (isEnd_separated xs)) hb
      have hcaptures := captures_recordAll_nil (before ++ ['&']) (separated xs) hnames
      rw [htext, List.append_assoc before, List.singleton_append] at hcaptures
      rw [searchFrom_of_find? hfind (by simp), List.map_cons, List.filterMap_cons_some hm,
        between_spans, hcaptures, ih hx (by simp) (by omega)]

lemma map_searchFrom_start {fuel : Nat} (hx : ∀ y ∈ x :: xs, '&' ∉ y ∧ q.Settles y (r y))
    (hf : xs.length + 1 < fuel) :
    (searchFrom (seq pairStart q) fuel none (between [] (x ++ separated xs) [])).map
        (fun d => (⟨d.spans.map (Span.captureIn (x ++ separated xs))⟩ : GrammarMatch)) =
      (x :: xs).filterMap r := by
  rw [List.forall_mem_cons] at hx
  obtain ⟨⟨hamp, hr⟩, hx⟩ := hx
  cases hm : r x with
  | none =>
    rw [hm] at hr
    have hfails : q.Fails (x ++ separated xs) := hr _ (isEnd_separated xs)
    have hempty : x = [] → q.Fails (separated xs) := by
      rintro rfl
      exact hfails
    have hnext : searchFrom (seq pairStart q) fuel none (between [] (x ++ separated xs) []) =
        searchFrom _ fuel none (between x (separated xs) []) :=
      searchFrom_congr (find?_skip [] hamp fun _ => hfails)
        (lt_of_mem_find?_separated hx hempty)
    rw [hnext, List.filterMap_cons_none hm]
    exact map_searchFrom_separated hx hempty (by omega)
  | some m =>
    rw [hm] at hr
    obtain ⟨ps, hne, rfl, hnames, rfl, hread⟩ := hr
    obtain ⟨fuel, rfl⟩ : ∃ k, fuel = k + 1 := ⟨fuel - 1, by omega⟩
    have hrun : ((seq pairStart q).run none (between [] (textOf ps ++ separated xs) [])).head? =
        some (between (textOf ps) (separated xs) (recordAll [] ps [])) := by
      rw [head?_run_seq_pairStart, hread [] _ (isEnd_separated xs) []]
      rfl
    have hlt : 0 < (textOf ps).length := List.length_pos_iff.mpr hne
    have hcaptures := captures_recordAll_nil [] (separated xs) hnames
    rw [List.nil_append] at hcaptures
    rw [searchFrom_of_find? (find?_of_head? hrun) hlt, List.map_cons, List.filterMap_cons_some hm,
      between_spans, hcaptures, map_searchFrom_separated hx (fun h => absurd h hne) (by omega)]

end

end Pattern

namespace Grammar

open Pattern

variable {g : Grammar} {q : Pattern} {r : List Char → Option GrammarMatch}

lemma matchesIn_separated (hg : g.pattern = seq pairStart q) {xs : List (List Char)} (hne : xs ≠ [])
    (hx : ∀ x ∈ xs, '&' ∉ x ∧ q.Settles x (r x)) :
    g.matchesIn (['&'].intercalate xs) = xs.filterMap r := by
  obtain ⟨x, xs, rfl⟩ := List.exists_cons_of_ne_nil hne
  have hlen := length_le_separated xs
  rw [intercalate_cons, matchesIn, Pattern.search, List.map_map, hg]
  exact map_searchFrom_start hx (by rw [List.length_append]; omega)

theorem scan_separated (hg : g.pattern = seq pairStart q) (hb : g.budget ≠ 0) {input : String}
    {s : List Char} (hs : Percent.decode (strip input.toList) = s)
    (hr : ∀ x ∈ Text.splitOn '&' s, q.Settles x (r x)) :
    g.scan input = (Text.splitOn '&' s).filterMap r := by
  have hmatches := matchesIn_separated hg (Text.splitWhere_ne_nil _ _) fun x hx =>
    ⟨Text.not_mem_of_mem_splitOn hx, hr x hx⟩
  rw [← Text.splitOn, Text.intercalate_splitOn] at hmatches
  rw [scan, ← hmatches]
  split
  · next he =>
    -- nothing is left of the query, and a match is never empty
    simp only [hb, decide_false, Bool.or_false, List.isEmpty_iff] at he
    rw [he, Percent.decode_of_not_mem (by simp)] at hs
    obtain rfl := hs
    rw [hmatches]
    cases hm : r [] with
    | none => simp [Text.splitOn, Text.splitWhere, hm]
    | some m =>
      have hempty := hr [] List.mem_cons_self
      rw [hm] at hempty
      obtain ⟨-, hne, -⟩ := hempty
      exact absurd rfl hne
  · rw [hs]

end Grammar

end BracketQuery
