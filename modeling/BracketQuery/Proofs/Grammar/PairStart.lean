import BracketQuery.Grammar.Filter
import BracketQuery.Proofs.Pattern.Successive

/-! A pair begins at the start of a query or after an ampersand, and nowhere else. -/

namespace BracketQuery

open Pattern

namespace Cursor

lemma head?_gather_append (step : Cursor → List Cursor) (cs ds : List Cursor) :
    (gather step (cs ++ ds)).head? = (gather step cs).head?.or (gather step ds).head? := by
  induction cs with
  | nil => rfl
  | cons c cs ih =>
    rw [List.cons_append, gather, gather, head?_merge, head?_merge, ih, Option.or_assoc]

lemma head?_gather_single (step : Cursor → List Cursor) (c : Cursor) :
    (gather step [c]).head? = (step c).head? := by
  rw [gather, gather, head?_merge, List.head?_nil, Option.or_none]

end Cursor

namespace FilterGrammar

lemma join_ne_empty {p : Pattern} {ps : List Pattern} (hm : p ∈ ps) (hp : p ≠ .empty) :
    join ps ≠ .empty := by
  induction ps with
  | nil => cases hm
  | cons q ps ih =>
    rcases join_cons_cases q ps with ⟨rfl, hj⟩ | ⟨he, hj⟩ | hj
    · rw [hj]
      exact ih ((List.mem_cons.mp hm).resolve_left hp)
    · rw [hj]
      rintro rfl
      exact ih ((List.mem_cons.mp hm).resolve_left hp) he
    · rw [hj]
      nofun

lemma join_pairStart {ps : List Pattern} (h : join ps ≠ .empty) :
    join (pairStart :: ps) = seq pairStart (join ps) := by
  have hstart : pairStart ≠ .empty := nofun
  exact ((join_cons_cases pairStart ps).resolve_left fun hp => hstart hp.1).resolve_left
    fun hp => h hp.1

lemma run_ampersand (before s : List Char) : (word ['&']).run none (.between before s []) =
    match s with
    | [] => []
    | c :: r => if c = '&' then [.between (before ++ ['&']) r []] else [] := by
  have hw : word ['&'] = chars (.single '&') := by
    rw [← show (CharSet.single '&').foldCase = .single '&' by decide]
    rfl
  rw [hw, run]
  cases s with
  | nil => rfl
  | cons c r =>
    by_cases hc : c = '&' <;> simp [Cursor.take?, Cursor.between, hc]

lemma run_pairStart (before s : List Char) : pairStart.run none (.between before s []) =
    (if before.isEmpty then [.between before s []] else []) ++
      (word ['&']).run none (.between before s []) := by
  have hprev : Boundary.textStart.holds (Cursor.between before s []).prev
      (Cursor.between before s []).rest.head? = before.isEmpty := by
    cases before <;> simp [Boundary.holds]
  rw [pairStart, run]
  simp only [Cursor.pass?, Option.map_none]
  rw [run, hprev, run_ampersand]
  cases before with
  | nil =>
    cases s with
    | nil => rfl
    | cons c r => by_cases hc : c = '&' <;> simp [Cursor.merge, hc]
  | cons b before => rfl

variable (q : Pattern)

lemma head?_run_seq_pairStart (before s : List Char) :
    ((seq pairStart q).run none (.between before s [])).head? =
      (if before.isEmpty then (q.run none (.between before s [])).head? else none).or
      (match s with
        | [] => none
        | c :: r =>
          if c = '&' then (q.run none (.between (before ++ ['&']) r [])).head? else none) := by
  rw [run_seq]
  simp only [Option.map_none]
  rw [run_pairStart, Cursor.head?_gather_append, run_ampersand]
  congr 1
  · cases before with
    | nil => exact Cursor.head?_gather_single _ _
    | cons b before => rfl
  · cases s with
    | nil => rfl
    | cons c r =>
      by_cases hc : c = '&'
      · simp only [hc, if_true, Cursor.head?_gather_single]
      · simp only [hc, if_false]
        rfl

end FilterGrammar

end BracketQuery
