import BracketQuery.Pattern.Choice
import BracketQuery.Pattern.Matching
import Mathlib.Tactic.Lemma

/-! The first way of a pattern through a text that is put together from pieces. -/

namespace BracketQuery

/-- A piece of a text, and the name of the capture that it is for, if any. -/
structure Piece where
  name : Option String
  text : List Char

def textOf (ps : List Piece) : List Char := ps.flatMap Piece.text

@[simp] lemma textOf_nil : textOf [] = [] := rfl

@[simp] lemma textOf_cons (p : Piece) (ps : List Piece) : textOf (p :: ps) = p.text ++ textOf ps := rfl

@[simp] lemma textOf_append (ps qs : List Piece) : textOf (ps ++ qs) = textOf ps ++ textOf qs :=
  List.flatMap_append

namespace Cursor

def between (before after : List Char) (spans : List Span) : Cursor :=
  ⟨before.length, before.getLast?, after, spans, []⟩

def recordAll (before : List Char) : List Piece → List Span → List Span
  | [], spans => spans
  | p :: ps, spans =>
    recordAll (before ++ p.text) ps
      (match p.name with
        | none => spans
        | some n =>
          ⟨n, before.length, before.length + p.text.length⟩ :: spans.filter fun s => s.name != n)

@[simp] lemma between_pos (before after : List Char) (spans : List Span) :
    (between before after spans).pos = before.length := rfl

@[simp] lemma between_rest (before after : List Char) (spans : List Span) :
    (between before after spans).rest = after := rfl

@[simp] lemma between_prev (before after : List Char) (spans : List Span) :
    (between before after spans).prev = before.getLast? := rfl

@[simp] lemma between_spans (before after : List Char) (spans : List Span) :
    (between before after spans).spans = spans := rfl

lemma recordAll_append (before : List Char) (ps qs : List Piece) (spans : List Span) :
    recordAll before (ps ++ qs) spans = recordAll (before ++ textOf ps) qs (recordAll before ps spans) := by
  induction ps generalizing before spans with
  | nil => simp [recordAll]
  | cons p ps ih => simp [recordAll, ih]

lemma head?_merge (cs ds : List Cursor) : (merge cs ds).head? = cs.head?.or ds.head? := by
  cases cs <;> simp [merge]

lemma head?_gather {step : Cursor → List Cursor} {cs : List Cursor} {c d : Cursor}
    (hc : cs.head? = some c) (hd : (step c).head? = some d) : (gather step cs).head? = some d := by
  cases cs with
  | nil => cases hc
  | cons c' cs =>
    obtain rfl := Option.some.inj hc
    rw [gather, head?_merge, hd]
    rfl

lemma mem_merge {c : Cursor} {cs ds : List Cursor} (h : c ∈ merge cs ds) : c ∈ cs ∨ c ∈ ds := by
  cases cs with
  | nil => exact .inr h
  | cons d cs =>
    rcases List.mem_append.mp h with h | h
    · exact .inl h
    · exact .inr (List.mem_filter.mp h).1

lemma mem_gather {step : Cursor → List Cursor} {cs : List Cursor} {d : Cursor}
    (h : d ∈ gather step cs) : ∃ c ∈ cs, d ∈ step c := by
  induction cs with
  | nil => cases h
  | cons c cs ih =>
    rcases mem_merge h with h | h
    · exact ⟨c, by simp, h⟩
    · obtain ⟨c', hc, hd⟩ := ih h
      exact ⟨c', by simp [hc], hd⟩

lemma head?_distinct (cs : List Cursor) : (distinct cs).head? = cs.head? := by
  cases cs <;> rfl

end Cursor

namespace Pattern

open Cursor

/-- After a text, the first way of the pattern is through the pieces; another text comes then. -/
def Reads (before : List Char) (p : Pattern) (ps : List Piece) (after : List Char) : Prop :=
  ∀ spans, (p.run none (between before (textOf ps ++ after) spans)).head? =
    some (between (before ++ textOf ps) after (recordAll before ps spans))

def Fails (p : Pattern) (after : List Char) : Prop := ∀ c : Cursor, c.rest = after → p.run none c = []

section

variable {before after : List Char} {p q : Pattern} {ps qs : List Piece} {c d e : Cursor}

lemma mem_run_seq (h : e ∈ (seq p q).run none c) : ∃ d ∈ p.run none c, e ∈ q.run none d := by
  rw [run_seq] at h
  exact mem_gather h

lemma join_cons_cases (p : Pattern) (rest : List Pattern) :
    (p = empty ∧ join (p :: rest) = join rest) ∨ (join rest = empty ∧ join (p :: rest) = p) ∨
      join (p :: rest) = seq p (join rest) := by
  rw [join.eq_def (p :: rest)]
  split
  · next h => cases h
  · next h =>
    cases h
    exact .inl ⟨rfl, rfl⟩
  · next h =>
    cases h
    split
    · next he => exact .inr (.inl ⟨he, rfl⟩)
    · exact .inr (.inr rfl)

lemma mem_run_join_cons {rest : List Pattern} (h : e ∈ (join (p :: rest)).run none c) :
    ∃ d ∈ p.run none c, e ∈ (join rest).run none d := by
  rcases join_cons_cases p rest with ⟨rfl, hj⟩ | ⟨hr, hj⟩ | hj
  · exact ⟨c, by simp [run], hj ▸ h⟩
  · exact ⟨e, hj ▸ h, by simp [hr, run]⟩
  · rw [hj] at h
    exact mem_run_seq h

lemma head?_run_seq (hp : (p.run none c).head? = some d) (hq : (q.run none d).head? = some e) :
    ((seq p q).run none c).head? = some e := by
  rw [run_seq]
  exact head?_gather hp hq

lemma head?_run_join_cons {rest : List Pattern} (hp : (p.run none c).head? = some d)
    (hr : ((join rest).run none d).head? = some e) :
    ((join (p :: rest)).run none c).head? = some e := by
  rcases join_cons_cases p rest with ⟨rfl, hj⟩ | ⟨he, hj⟩ | hj
  · obtain rfl : c = d := by simpa [run] using hp
    rw [hj, hr]
  · obtain rfl : d = e := by simpa [he, run] using hr
    rw [hj, hp]
  · rw [hj]
    exact head?_run_seq hp hr

lemma Reads.seq (hp : Reads before p ps (textOf qs ++ after))
    (hq : Reads (before ++ textOf ps) q qs after) : Reads before (.seq p q) (ps ++ qs) after := by
  intro spans
  have h := head?_run_seq (hp spans) (hq _)
  rwa [textOf_append, List.append_assoc, recordAll_append, ← List.append_assoc before]

lemma Reads.join {rest : List Pattern} (hp : Reads before p ps (textOf qs ++ after))
    (hr : Reads (before ++ textOf ps) (join rest) qs after) :
    Reads before (join (p :: rest)) (ps ++ qs) after := by
  intro spans
  have h := head?_run_join_cons (hp spans) (hr _)
  rwa [textOf_append, List.append_assoc, recordAll_append, ← List.append_assoc before]

lemma Reads.either_left (h : Reads before p ps after) : Reads before (either p q) ps after := by
  intro spans
  rw [run]
  simp [pass?, head?_merge, h spans]

lemma Reads.either_right (hp : p.Fails (textOf ps ++ after)) (hq : Reads before q ps after) :
    Reads before (either p q) ps after := by
  intro spans
  have hnil := hp (between before (textOf ps ++ after) spans) rfl
  rw [run]
  simp [pass?, head?_merge, hnil, hq spans]

lemma Reads.fuse {x y : List Char} (h : Reads before p (⟨none, x⟩ :: ⟨none, y⟩ :: ps) after) :
    Reads before p (⟨none, x ++ y⟩ :: ps) after := by
  intro spans
  simpa [recordAll] using h spans

lemma Reads.named {x : List Char} (n : String) (h : Reads before p [⟨none, x⟩] after) :
    Reads before (named n p) [⟨some n, x⟩] after := by
  intro spans
  rw [Pattern.named, run, List.head?_map]
  simp only [Option.map_none]
  rw [show textOf [⟨some n, x⟩] = textOf [⟨none, x⟩] from rfl, h spans]
  simp [record, recordAll, between]

lemma ne_chars (hp : p.charSet? = none) (s : CharSet) : p ≠ chars s := by
  rintro rfl
  cases hp

lemma run_optional (hp : p.charSet? = none) (c : Cursor) :
    (optional p).run none c = merge (distinct (p.run none c ++ [c])) [] := by
  rw [optional, run]
  · simp only [Option.isNone_none, Option.isNone_some, Bool.and_false, Bool.false_and,
      Bool.false_eq_true, if_false, Option.map_none, repeated, copies, gather, upTo, rounds,
      List.foldl_cons, List.foldl_nil, pass?, id, List.contains_nil, List.nil_append]
    rw [List.filter_eq_self.mpr (by simp)]
  · simpa using ne_chars hp

lemma Reads.optional (hp : p.charSet? = none) (h : Reads before p ps after) :
    Reads before (optional p) ps after := by
  intro spans
  rw [run_optional hp, head?_merge, head?_distinct, List.head?_append, h spans]
  rfl

lemma reads_optional_nil (hp : p.charSet? = none) (h : p.Fails after) :
    Reads before (.optional p) [] after := by
  intro spans
  rw [run_optional hp, h _ rfl]
  simp [head?_merge, head?_distinct, recordAll]

lemma reads_chars {s : CharSet} {x : Char} (h : s.contains x) :
    Reads before (chars s) [⟨none, [x]⟩] after := by
  intro spans
  simp [run, take?, between, h, recordAll]

lemma getLast?_along (before : List Char) {s : CharSet} {x : List Char} (spans : List Span)
    (hx : ∀ c ∈ x, s.contains c) (ha : ∀ c ∈ after.head?, s.contains c = false) :
    (along s before.length before.getLast? spans (x ++ after)).getLast? =
      some (between (before ++ x) after spans) := by
  induction x generalizing before with
  | nil =>
    cases after with
    | nil => simp [along, between]
    | cons d after => simp [along, between, ha d (by simp)]
  | cons d x ih =>
    have h := ih (before ++ [d]) fun c hc => hx c (by simp [hc])
    simp only [List.length_append, List.length_cons, List.length_nil, List.getLast?_append,
      List.getLast?_singleton, Option.some_or, List.append_assoc, List.cons_append,
      List.nil_append] at h
    rw [List.cons_append, along, if_pos (hx d (by simp)), List.getLast?_cons, h]
    rfl

lemma reads_star_chars {s : CharSet} {x : List Char} (hx : ∀ c ∈ x, s.contains c)
    (ha : ∀ c ∈ after.head?, s.contains c = false) :
    Reads before (star (chars s)) [⟨none, x⟩] after := by
  intro spans
  have h := getLast?_along before spans hx ha
  simpa [star, run, between, recordAll] using h

lemma reads_plus_chars {s : CharSet} {x : List Char} (hne : x ≠ []) (hx : ∀ c ∈ x, s.contains c)
    (ha : ∀ c ∈ after.head?, s.contains c = false) :
    Reads before (plus (chars s)) [⟨none, x⟩] after := by
  cases x with
  | nil => exact absurd rfl hne
  | cons d x =>
    intro spans
    have hx' : ∀ c ∈ x, s.contains c := fun c hc => hx c (by simp [hc])
    have h := getLast?_along (before ++ [d]) spans hx' ha
    simpa [plus, run, between, recordAll, along, hx d (by simp)] using h

lemma head?_foldl {σ : Type} {f : List Cursor × σ → Cursor → List Cursor × σ}
    (hf : ∀ o s c, ∃ m, (f (o, s) c).1 = o ++ m) (cs : List Cursor) (o : List Cursor) (s : σ)
    (h : o.head? = some c) : (cs.foldl f (o, s)).1.head? = some c := by
  induction cs generalizing o s with
  | nil => exact h
  | cons d cs ih =>
    obtain ⟨m, hm⟩ := hf o s d
    apply ih (f (o, s) d).1 (f (o, s) d).2
    rw [hm, List.head?_append, h]
    rfl

lemma rounds_nil (step : Nat → Cursor → List Cursor) (fuel : Nat) (seen : List (Nat × Nat)) :
    (rounds step (fun _ => none) false (fun _ => 0) fuel [] seen).1 = [] := by
  cases fuel <;> rfl

lemma head?_rounds_succ {step : Nat → Cursor → List Cursor} {fuel : Nat} {todo : List Cursor}
    {seen : List (Nat × Nat)} (hc : todo.head? = some c) (hs : (0, c.pos) ∉ seen)
    (h : ((rounds step (fun _ => none) false (fun _ => 0) fuel (step (fuel + 1) c)
      ((0, c.pos) :: seen)).1 ++ [c]).head? = some d) :
    (rounds step (fun _ => none) false (fun _ => 0) (fuel + 1) todo seen).1.head? = some d := by
  cases todo with
  | nil => cases hc
  | cons c' cs =>
    obtain rfl := Option.some.inj hc
    rw [rounds, List.foldl_cons]
    simp only [List.contains_eq_mem, hs, decide_false, Bool.false_eq_true, if_false, pass?,
      List.nil_append]
    refine head?_foldl ?_ cs _ _ h
    intro o s e
    dsimp only
    split
    · exact ⟨[], by simp⟩
    · exact ⟨_, rfl⟩

lemma head?_rounds {xs : List (List Char)} {fuel : Nat} {todo : List Cursor}
    {seen : List (Nat × Nat)} {spans : List Span}
    (hx : ∀ x ∈ xs, x ≠ [] ∧ ∀ before after, Reads before p [⟨none, x⟩] after) (hf : p.Fails after)
    (hfuel : xs.length < fuel) (hs : ∀ k ∈ seen, k.2 < before.length)
    (ht : todo.head? = some (between before (xs.flatten ++ after) spans)) :
    (rounds (fun _ => p.run none) (fun _ => none) false (fun _ => 0) fuel todo seen).1.head? =
      some (between (before ++ xs.flatten) after spans) := by
  induction xs generalizing before fuel todo seen with
  | nil =>
    obtain ⟨fuel, rfl⟩ : ∃ k, fuel = k + 1 := ⟨fuel - 1, by simp at hfuel; omega⟩
    apply head?_rounds_succ ht fun hm => Nat.lt_irrefl _ (hs _ hm)
    rw [hf _ rfl, rounds_nil]
    simp
  | cons x xs ih =>
    obtain ⟨fuel, rfl⟩ : ∃ k, fuel = k + 1 := ⟨fuel - 1, by simp at hfuel; omega⟩
    apply head?_rounds_succ ht fun hm => Nat.lt_irrefl _ (hs _ hm)
    obtain ⟨hne, hr⟩ := hx x (by simp)
    have hpos : 0 < x.length := List.length_pos_iff.mpr hne
    have h := hr before (xs.flatten ++ after) spans
    simp only [textOf_cons, textOf_nil, List.append_nil, recordAll] at h
    -- a copy takes something, so all places that were entered lie before the next one
    have hs' : ∀ k ∈ (0, before.length) :: seen, k.2 < (before ++ x).length := by
      intro k hk
      rw [List.length_append]
      rcases List.mem_cons.mp hk with rfl | hk
      · simpa using hpos
      · have := hs k hk
        omega
    have hi := ih (fun y hy => hx y (by simp [hy])) (by simpa using hfuel) hs' h
    rw [List.flatten_cons, List.append_assoc, between_pos, List.head?_append, hi, Option.some_or,
      List.append_assoc]

lemma length_le_flatten {xs : List (List Char)} (h : ∀ x ∈ xs, x ≠ []) :
    xs.length ≤ xs.flatten.length := by
  induction xs with
  | nil => simp
  | cons x xs ih =>
    have hx : 0 < x.length := List.length_pos_iff.mpr (h x (by simp))
    have := ih fun y hy => h y (by simp [hy])
    rw [List.flatten_cons, List.length_append, List.length_cons]
    omega

lemma reads_star {xs : List (List Char)} (hp : p.charSet? = none) (hn : p.isNullable = false)
    (hx : ∀ x ∈ xs, x ≠ [] ∧ ∀ before after, Reads before p [⟨none, x⟩] after)
    (hf : p.Fails after) : Reads before (star p) [⟨none, xs.flatten⟩] after := by
  have hlen := length_le_flatten fun x hm => (hx x hm).1
  intro spans
  rw [star, run]
  · simp only [hn, Bool.and_false, Bool.false_eq_true, if_false, Option.map_none, repeated, loop,
      head?_distinct, textOf_cons, textOf_nil, List.append_nil, recordAll, between_rest,
      List.length_append]
    exact head?_rounds hx hf (by omega) (by simp) (by simp)
  · simpa using ne_chars hp

end

end Pattern

end BracketQuery
