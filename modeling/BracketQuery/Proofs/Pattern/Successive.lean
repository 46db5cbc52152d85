import BracketQuery.Grammar
import BracketQuery.Proofs.Pattern.FirstWay

/-! Successive matches, each right after the last one, and the texts that they capture. -/

namespace BracketQuery

def captured (ps : List Piece) : List (String × String) :=
  ps.filterMap fun p => p.name.map fun n => (n, String.ofList p.text)

namespace Cursor

def recordEach : List Char → List (List Piece) → List (List Span)
  | _, [] => []
  | before, ps :: pss => recordAll before ps [] :: recordEach (before ++ textOf ps) pss

end Cursor

lemma Span.text_between (n : String) (before x after : List Char) :
    Span.text (before ++ x ++ after) ⟨n, before.length, before.length + x.length⟩ = x := by
  simp [Span.text, List.append_assoc]

def Span.captureIn (s : List Char) (x : Span) : String × String := (x.name, String.ofList (x.text s))

lemma captures_recordAll {before after : List Char} {ps : List Piece} {spans : List Span}
    (hn : (ps.filterMap Piece.name).Nodup)
    (hs : ∀ n ∈ ps.filterMap Piece.name, ∀ x ∈ spans, x.name ≠ n) :
    (Cursor.recordAll before ps spans).map (Span.captureIn (before ++ textOf ps ++ after)) =
      (captured ps).reverse ++ spans.map (Span.captureIn (before ++ textOf ps ++ after)) := by
  induction ps generalizing before spans with
  | nil => simp [Cursor.recordAll, captured]
  | cons p ps ih =>
    have hassoc : before ++ textOf (p :: ps) ++ after = before ++ p.text ++ textOf ps ++ after := by
      simp
    obtain ⟨name, x⟩ := p
    rw [Cursor.recordAll, hassoc]
    cases name with
    | none => exact ih (by simpa using hn) (by simpa using hs)
    | some n =>
      simp only [List.filterMap_cons, List.nodup_cons] at hn hs
      have hkeep : spans.filter (fun s => s.name != n) = spans := by
        rw [List.filter_eq_self]
        intro s hm
        simpa using hs n (by simp) s hm
      dsimp only
      rw [hkeep, ih hn.2]
      · have htext := Span.text_between n before x (textOf ps ++ after)
        rw [← List.append_assoc] at htext
        simp only [List.map_cons, captured, List.filterMap_cons, Option.map_some,
          List.reverse_cons, List.append_assoc, List.cons_append, List.nil_append]
        rw [Span.captureIn, ← List.append_assoc before, ← List.append_assoc, htext]
      · intro m hm s hs'
        rcases List.mem_cons.mp hs' with rfl | hs'
        · rintro rfl
          exact hn.1 hm
        · exact hs m (by simp [hm]) s hs'

lemma captures_recordAll_nil (before after : List Char) {ps : List Piece}
    (hn : (ps.filterMap Piece.name).Nodup) :
    (Cursor.recordAll before ps []).map (Span.captureIn (before ++ textOf ps ++ after)) =
      (captured ps).reverse := by
  rw [captures_recordAll hn (by simp), List.map_nil, List.append_nil]

namespace Pattern

open Cursor

def ReadsEach (p : Pattern) : List Char → List (List Piece) → Prop
  | _, [] => p.Fails []
  | before, ps :: pss =>
    textOf ps ≠ [] ∧ Reads before p ps (pss.flatMap textOf) ∧ ReadsEach p (before ++ textOf ps) pss

variable {p : Pattern}

lemma find?_eq (p : Pattern) (pos : Nat) (prev : Option Char) (rest : List Char) :
    p.find? pos prev rest = ((p.run none ⟨pos, prev, rest, [], []⟩).head?.map (pos, ·)).or
      (match rest with
        | [] => none
        | c :: r => p.find? (pos + 1) (some c) r) := by
  cases rest with
  | nil => rw [find?, Option.or_none]
  | cons c r =>
    rw [find?]
    cases p.run none ⟨pos, prev, c :: r, [], []⟩ <;> rfl

lemma find?_of_head? {pos : Nat} {prev : Option Char} {rest : List Char} {d : Cursor}
    (h : (p.run none ⟨pos, prev, rest, [], []⟩).head? = some d) :
    p.find? pos prev rest = some (pos, d) := by
  rw [find?_eq, h]
  rfl

lemma find?_of_fails (h : p.Fails []) (pos : Nat) (prev : Option Char) :
    p.find? pos prev [] = none := by
  rw [find?, h _ rfl]
  rfl

lemma searchFrom_of_find? {c d : Cursor} {fuel start : Nat} {last : Option Nat}
    (h : p.find? c.pos c.prev c.rest = some (start, d)) (hlt : start < d.pos) :
    searchFrom p (fuel + 1) last c = d :: searchFrom p fuel (some d.pos) d := by
  rw [searchFrom, h]
  simp [Nat.ne_of_gt hlt]

lemma map_spans_searchFrom {pss : List (List Piece)} {before : List Char} {fuel : Nat}
    {last : Option Nat} {spans : List Span} (h : p.ReadsEach before pss) (hf : pss.length < fuel) :
    (searchFrom p fuel last (between before (pss.flatMap textOf) spans)).map Cursor.spans =
      recordEach before pss := by
  induction pss generalizing before fuel last spans with
  | nil =>
    obtain ⟨fuel, rfl⟩ : ∃ k, fuel = k + 1 := ⟨fuel - 1, by simp at hf; omega⟩
    rw [searchFrom, between]
    simp [find?_of_fails h, recordEach]
  | cons ps pss ih =>
    obtain ⟨fuel, rfl⟩ : ∃ k, fuel = k + 1 := ⟨fuel - 1, by simp at hf; omega⟩
    obtain ⟨hne, hr, h⟩ := h
    have hpos : 0 < (textOf ps).length := List.length_pos_iff.mpr hne
    have hfind := find?_of_head? (hr [])
    rw [List.flatMap_cons, searchFrom_of_find? hfind (by simpa using hpos), List.map_cons,
      recordEach]
    exact congrArg _ (ih h (by simpa using hf))

lemma length_le_of_readsEach {pss : List (List Piece)} {before : List Char}
    (h : p.ReadsEach before pss) : pss.length ≤ (pss.flatMap textOf).length := by
  induction pss generalizing before with
  | nil => simp
  | cons ps pss ih =>
    have hpos : 0 < (textOf ps).length := List.length_pos_iff.mpr h.1
    have := ih h.2.2
    rw [List.flatMap_cons, List.length_append, List.length_cons]
    omega

lemma search_eq {pss : List (List Piece)} (h : p.ReadsEach [] pss) :
    p.search (pss.flatMap textOf) = recordEach [] pss := by
  have := length_le_of_readsEach h
  exact map_spans_searchFrom h (by omega)

end Pattern

lemma captures_recordEach (before : List Char) {pss : List (List Piece)}
    (hn : ∀ ps ∈ pss, (ps.filterMap Piece.name).Nodup) :
    (Cursor.recordEach before pss).map
        (fun spans => spans.map (Span.captureIn (before ++ pss.flatMap textOf))) =
      pss.map fun ps => (captured ps).reverse := by
  induction pss generalizing before with
  | nil => rfl
  | cons ps pss ih =>
    rw [Cursor.recordEach, List.map_cons, List.map_cons, List.flatMap_cons, ← List.append_assoc,
      captures_recordAll (hn ps (by simp)) (by simp), ih _ fun qs hq => hn qs (by simp [hq])]
    simp

lemma Grammar.matchesIn_eq {g : Grammar} {pss : List (List Piece)} (h : g.pattern.ReadsEach [] pss)
    (hn : ∀ ps ∈ pss, (ps.filterMap Piece.name).Nodup) :
    g.matchesIn (pss.flatMap textOf) = pss.map fun ps => ⟨(captured ps).reverse⟩ := by
  have hc := captures_recordEach [] hn
  have hm := congrArg (List.map GrammarMatch.mk) hc
  rw [matchesIn, Pattern.search_eq h]
  rw [List.map_map, List.map_map] at hm
  exact hm

end BracketQuery
