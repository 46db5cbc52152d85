import BracketQuery.Proofs.Grammar.PairStart
import BracketQuery.Proofs.Grammar.Query
import BracketQuery.Proofs.Grammar.Reader

/-! The matches of the filter grammar in a query are the pairs that are read from left to right. -/

namespace BracketQuery

open Pattern

namespace FilterGrammar

section

variable {q : Pattern} {r : List Char → Prop}

lemma exists_flatMap_of_flatten {f : List Char → List Char} {xs : List (List Char)}
    (h : ∀ x ∈ xs, ∃ y, x = f y ∧ r y) :
    ∃ ys : List (List Char), xs.flatten = ys.flatMap f ∧ ∀ y ∈ ys, r y := by
  induction xs with
  | nil => exact ⟨[], rfl, by simp⟩
  | cons x xs ih =>
    obtain ⟨y, rfl, hy⟩ := h x (by simp)
    obtain ⟨ys, he, hys⟩ := ih fun z hz => h z (by simp [hz])
    exact ⟨y :: ys, by simp [he], List.forall_mem_cons.mpr ⟨hy, hys⟩⟩

lemma takes_part {mark : List Char} (n : String) (hm : ∀ x, Text.foldsTo mark x = true → x = mark)
    (hc : (join [word ('[' :: mark), named n q, word [']']]).charSet? = none) (hq : Takes q r) :
    Takes (optional (join [word ('[' :: mark), named n q, word [']']])) fun x =>
      ∃ y : Option (List Char), x = y.toList.flatMap enclosed ∧
        ∀ z ∈ y, ∃ w, z = mark ++ w ∧ r w := by
  refine ((takes_enclosed hm (hq.named n)).optional hc).imp ?_
  rintro x (rfl | ⟨y, rfl, hy⟩)
  · exact ⟨none, rfl, by simp⟩
  · refine ⟨some (mark ++ y), by simp, ?_⟩
    rintro z ⟨⟩
    exact ⟨y, rfl, hy⟩

lemma takes_path : Takes (named path (star (bracketed (plus (chars segmentChars))))) fun x =>
    ∃ ys : List (List Char), x = ys.flatMap enclosed ∧ ∀ y ∈ ys, isPlain y = true := by
  have hseg := takes_enclosed eq_nil_of_foldsTo_nil (takes_plus_chars segmentChars)
  refine ((takes_star rfl (by decide) hseg).named path).imp ?_
  rintro x ⟨xs, rfl, hx⟩
  exact exists_flatMap_of_flatten fun x hm => (hx x hm).imp fun y hy => ⟨hy.1, isPlain_iff.mpr hy.2⟩

lemma isPlain_of_nameStart {x : List Char}
    (h : ∃ c s, x = c :: s ∧ nameStart.contains c = true ∧
      ∀ d ∈ s, segmentChars.contains d = true) : isPlain x = true := by
  obtain ⟨c, s, rfl, hc, hs⟩ := h
  refine isPlain_iff.mpr ⟨by simp, List.forall_mem_cons.mpr ⟨?_, hs⟩⟩
  rw [contains_segmentChars_iff]
  refine ⟨?_, ?_, ?_⟩ <;>
  · rintro rfl
    revert hc
    decide

lemma isPlain_of_digits {x : List Char}
    (h : x ≠ [] ∧ ∀ c ∈ x, Text.decimalDigits.contains c = true) : isPlain x = true := by
  refine isPlain_iff.mpr ⟨h.1, fun c hc => ?_⟩
  have hd := h.2 c hc
  rw [contains_segmentChars_iff]
  refine ⟨?_, ?_, ?_⟩ <;>
  · rintro rfl
    revert hd
    decide +kernel

lemma not_mem_of_isMarked {ws : List String} (hw : ∀ w ∈ ws, ']' ∉ w.toList) {x : List Char}
    (h : isMarked ws x = true) : ']' ∉ x := by
  obtain ⟨-, hx, ht⟩ := of_isMarked h
  rw [hx]
  exact FilterPair.not_mem_marked hw ht

lemma takes_pairParts (o : Options) (hk : ']' ∉ o.groupKeyword.toList) :
    Takes (join (pairParts o)) fun x => ∃ k xs v, x = k ++ (xs.flatMap enclosed ++ '=' :: v) ∧
      Text.foldsTo o.filterKey.toList k = true ∧ (∀ y ∈ xs, ']' ∉ y) ∧
      FilterPair.IsContents o.groupKeyword xs := by
  have hvalue : Takes (join [named value (star (chars valueChars))]) _ :=
    (takes_star_chars valueChars).named value
  have hequals := (takes_word ['=']).join_cons hvalue
  have hoperator := (takes_part operator eq_dollar_of_foldsTo rfl
    (takes_anyWord operatorTokens)).join_cons hequals
  have hpath := takes_path.join_cons hoperator
  have hindex := (takes_part groupIndex eq_nil_of_foldsTo_nil rfl
    (takes_plus_chars Text.decimalDigits)).join_cons hpath
  have hmember := (takes_part memberOf eq_nil_of_foldsTo_nil rfl takes_namePattern).join_cons hindex
  have hconjunction := (takes_part conjunction eq_dollar_of_foldsTo rfl
    (takes_anyWord conjunctionTokens)).join_cons hmember
  have hkind := (takes_part kind eq_nil_of_foldsTo_nil rfl
    (takes_word o.groupKeyword.toList)).join_cons hconjunction
  refine ((takes_word o.filterKey.toList).join_cons hkind).imp ?_
  rintro _ ⟨k, _, rfl, hkey, _, _, rfl, ⟨t, rfl, ht⟩, _, _, rfl, ⟨c, rfl, hc⟩, _, _, rfl,
    ⟨m, rfl, hm⟩, _, _, rfl, ⟨i, rfl, hi⟩, _, _, rfl, ⟨ys, rfl, hy⟩, _, _, rfl, ⟨p, rfl, hp⟩,
    e, v, rfl, he, -⟩
  obtain rfl := eq_single_of_foldsTo (by decide) e he
  have hkind : ∀ z ∈ t, Text.foldsTo o.groupKeyword.toList z = true := by
    intro z hz
    obtain ⟨w, rfl, hw⟩ := ht z hz
    exact hw
  have hmarked {ws : List String} {x : Option (List Char)}
      (hx : ∀ z ∈ x, ∃ w, z = ['$'] ++ w ∧ isToken ws w = true) :
      ∀ z ∈ x, isMarked ws z = true := by
    intro z hz
    obtain ⟨w, rfl, hw⟩ := hx z hz
    exact hw
  have hplain : ∀ z ∈ m.toList ++ (i.toList ++ ys), isPlain z = true := by
    simp only [List.mem_append, Option.mem_toList]
    rintro z (hz | hz | hz)
    · obtain ⟨w, rfl, hw⟩ := hm z hz
      exact isPlain_of_nameStart hw
    · obtain ⟨w, rfl, hw⟩ := hi z hz
      exact isPlain_of_digits hw
    · exact hy z hz
  refine ⟨k, t.toList ++ (c.toList ++ (m.toList ++ (i.toList ++ ys) ++ p.toList)), v, by simp, hkey,
    ?_, t, _, rfl, hkind, c, _, rfl, hmarked hc, _, p, rfl, hplain, hmarked hp⟩
  intro z hz
  rw [List.mem_append, List.mem_append, List.mem_append, Option.mem_toList, Option.mem_toList,
    Option.mem_toList] at hz
  rcases hz with hz | hz | hz | hz
  · exact Text.not_mem_of_foldsTo isUncased_bracket (hkind z hz) hk
  · exact not_mem_of_isMarked not_mem_conjunctionTokens (hmarked hc z hz)
  · exact not_mem_of_segmentChars (isPlain_iff.mp (hplain z hz)).2
  · exact not_mem_of_isMarked not_mem_operatorTokens (hmarked hp z hz)

lemma fails_pairParts {o : Options} (hk : ']' ∉ o.groupKeyword.toList) {s : List Char}
    (h : FilterPair.read? o.filterKey o.groupKeyword s = none) : (join (pairParts o)).Fails s := by
  intro c hc
  rw [List.eq_nil_iff_forall_not_mem]
  intro d hd
  obtain ⟨_, hs, k, xs, v, rfl, hkey, hx, hxs⟩ := takes_pairParts o hk c d hd
  have hsome := FilterPair.read?_isSome (t := v ++ d.rest) hkey hx hxs
  rw [hc] at hs
  simp only [List.append_assoc, List.cons_append] at hs
  rw [← hs, h] at hsome
  cases hsome

end

lemma pattern_eq (o : Options) : pattern o = seq pairStart (join (pairParts o)) :=
  join_pairStart <|
    join_ne_empty (p := named value (star (chars valueChars))) (by simp) nofun

end FilterGrammar

section

variable {α β : Type} {r r' : α → β → Prop} {x x' : Option α} {y y' : Option β}

lemma rel_mono (h : ∀ a b, r a b → r' a b) (hx : Option.Rel r x y) : Option.Rel r' x y := by
  cases hx with
  | some hr => exact .some (h _ _ hr)
  | none => exact .none

lemma rel_map {γ : Type} {r'' : α → γ → Prop} {f : β → γ} (h : ∀ a b, r a b → r'' a (f b))
    (hx : Option.Rel r x y) : Option.Rel r'' x (y.map f) := by
  cases hx with
  | some hr => exact .some (h _ _ hr)
  | none => exact .none

lemma rel_or (hx : Option.Rel r x y) (hx' : Option.Rel r x' y') :
    Option.Rel r (x.or x') (y.or y') := by
  cases hx with
  | some hr => exact .some hr
  | none => exact hx'

end

namespace FilterPair

open FilterGrammar

def toMatch (p : FilterPair) : GrammarMatch :=
  ⟨field FilterGrammar.value (some p.value) ++ (field FilterGrammar.operator p.operator ++
    (field path (some (String.ofList p.pathText)) ++ (field groupIndex p.index ++
      (field memberOf p.member ++ (field FilterGrammar.conjunction p.conjunction ++
        field FilterGrammar.kind p.kind)))))⟩

lemma matched_eq_toMatch (key : String) (p : FilterPair) : p.matched key = p.toMatch :=
  congrArg GrammarMatch.mk (captures_matched key p)

/-- A cursor at the end of a pair that begins at or after a place. -/
def Reached (whole : List Char) (start : Nat) (x : FilterPair × List Char) (d : Cursor) : Prop :=
  ∃ front k, start ≤ front.length ∧ whole = front ++ textOf (x.1.pieces k) ++ x.2 ∧
    d = .between (front ++ textOf (x.1.pieces k)) x.2 (Cursor.recordAll front (x.1.pieces k) [])

lemma Reached.mono {whole : List Char} {m n : Nat} (h : m ≤ n) {x : FilterPair × List Char}
    {d : Cursor} (hx : Reached whole n x d) : Reached whole m x d := by
  obtain ⟨front, k, hn, hw, hd⟩ := hx
  exact ⟨front, k, Nat.le_trans h hn, hw, hd⟩

lemma Reached.lt_pos {whole : List Char} {n : Nat} {x : FilterPair × List Char} {d : Cursor}
    (h : Reached whole n x d) : n < d.pos := by
  obtain ⟨front, k, hn, -, rfl⟩ := h
  have := length_textOf_pieces x.1 k
  rw [Cursor.between_pos, List.length_append]
  omega

lemma next?_eq (key keyword : String) (isStart : Bool) (s : List Char) :
    next? key keyword isStart s =
      ((if isStart then read? key keyword s else none).or
        (match s with
          | [] => none
          | c :: r => if c = '&' then read? key keyword r else none)).or
      (match s with
        | [] => none
        | _ :: r => next? key keyword false r) := by
  cases s with
  | nil => rw [next?, Option.or_none, Option.or_none]
  | cons c r => rw [next?, Option.or_assoc]

section

variable {o : Options} (hk : ']' ∉ o.groupKeyword.toList) (before s : List Char)

include hk

lemma rel_pairParts : Option.Rel (Reached (before ++ s) before.length)
    (read? o.filterKey o.groupKeyword s)
    ((join (pairParts o)).run none (.between before s [])).head? := by
  cases hr : read? o.filterKey o.groupKeyword s with
  | none =>
    rw [fails_pairParts hk hr _ rfl]
    exact .none
  | some x =>
    obtain ⟨p, t⟩ := x
    obtain ⟨k, hkey, rfl, hp, ht⟩ := read?_spec hr
    rw [hp.reads hkey hk ht []]
    exact .some ⟨before, k, Nat.le_refl _, (List.append_assoc _ _ _).symm, rfl⟩

lemma rel_pattern : Option.Rel (Reached (before ++ s) before.length)
    ((if before.isEmpty then read? o.filterKey o.groupKeyword s else none).or
      (match s with
        | [] => none
        | c :: r => if c = '&' then read? o.filterKey o.groupKeyword r else none))
    ((pattern o).run none (.between before s [])).head? := by
  rw [pattern_eq, head?_run_seq_pairStart]
  apply rel_or
  · split
    · exact rel_pairParts hk before s
    · exact .none
  · cases s with
    | nil => exact .none
    | cons c r =>
      by_cases hc : c = '&'
      · simp only [hc, if_true]
        have h := rel_pairParts hk (before ++ ['&']) r
        rw [List.append_assoc] at h
        exact rel_mono (fun _ _ => Reached.mono (by simp)) h
      · simp only [hc, if_false]
        exact .none

lemma rel_find? : Option.Rel (fun x y => Reached (before ++ s) before.length x y.2 ∧ y.1 < y.2.pos)
    (next? o.filterKey o.groupKeyword before.isEmpty s)
    ((pattern o).find? before.length before.getLast? s) := by
  induction s generalizing before with
  | nil =>
    have hrel := rel_pattern hk before []
    rw [next?_eq, find?_eq]
    exact rel_or (rel_map (fun _ _ h => ⟨h, h.lt_pos⟩) hrel) .none
  | cons c r ih =>
    have hrel := rel_pattern hk before (c :: r)
    have hnext := ih (before ++ [c])
    rw [List.length_append, List.getLast?_concat, List.append_assoc,
      List.isEmpty_eq_false_iff.mpr (by simp)] at hnext
    rw [next?_eq, find?_eq]
    refine rel_or (rel_map (fun _ _ h => ⟨h, h.lt_pos⟩) hrel) (rel_mono ?_ hnext)
    exact fun _ _ h => ⟨h.1.mono (by simp), h.2⟩

omit hk in
lemma Reached.toMatch_eq {whole : List Char} {n : Nat} {x : FilterPair × List Char} {d : Cursor}
    (h : Reached whole n x d) :
    (⟨d.spans.map (Span.captureIn whole)⟩ : GrammarMatch) = x.1.toMatch := by
  obtain ⟨front, k, -, rfl, rfl⟩ := h
  rw [← matched_eq_toMatch k, matched, Cursor.between_spans,
    captures_recordAll_nil _ _ (nodup_names k x.1)]

lemma map_searchFrom {fuel : Nat} (last : Option Nat) (spans : List Span) (hf : s.length < fuel) :
    (searchFrom (pattern o) fuel last (.between before s spans)).map
        (fun d => (⟨d.spans.map (Span.captureIn (before ++ s))⟩ : GrammarMatch)) =
      (pairsFrom o.filterKey o.groupKeyword before.isEmpty s).map toMatch := by
  induction fuel generalizing before s last spans with
  | zero => omega
  | succ fuel ih =>
    have hrel := rel_find? hk before s
    generalize hfind : (pattern o).find? _ _ s = y at hrel
    generalize hnext : next? _ _ before.isEmpty s = x at hrel
    cases hrel with
    | none =>
      rw [searchFrom, Cursor.between_pos, Cursor.between_prev, Cursor.between_rest, hfind,
        pairsFrom_of_none hnext, List.map_nil, List.map_nil]
    | @some x y hxy =>
      obtain ⟨p, t⟩ := x
      obtain ⟨start, d⟩ := y
      obtain ⟨hreached, hlt⟩ := hxy
      have hmatch := hreached.toMatch_eq
      rw [searchFrom_of_find? hfind hlt, pairsFrom_of_some hnext, List.map_cons, List.map_cons,
        hmatch]
      congr 1
      -- the rest of the search is through the rest of the same text
      obtain ⟨front, k, hn, hwhole, rfl⟩ := hreached
      have hpos := length_textOf_pieces p k
      have hlen := congrArg List.length hwhole
      simp only [List.length_append] at hlen
      have hempty : (front ++ textOf (p.pieces k)).isEmpty = false :=
        List.isEmpty_eq_false_iff.mpr
          (List.append_ne_nil_of_right_ne_nil front (List.ne_nil_of_length_pos hpos))
      have hlt : t.length < fuel := by omega
      rw [hwhole, ← hempty]
      exact ih _ _ _ _ hlt

omit hk in
lemma pairsFrom_nil (hkey : o.filterKey.toList ≠ []) :
    pairsFrom o.filterKey o.groupKeyword true [] = [] := by
  apply pairsFrom_of_none
  have hfold : Text.foldsTo o.filterKey.toList [] = false := by
    cases hw : o.filterKey.toList with
    | nil => exact absurd hw hkey
    | cons c w => rfl
  rw [next?, read?, List.take_nil, hfold]
  rfl

end

section

variable {o : Options} {g : Grammar}

theorem scan_eq (hv : o.IsValid) (hg : FilterGrammar.ofOptions o = .ok g) (hb : o.matchBudget ≠ 0)
    (input : String) :
    g.scan input = (pairsFrom o.filterKey o.groupKeyword true
      (Percent.decode (Grammar.strip input.toList))).map toMatch := by
  obtain rfl := Grammar.eq_of_ofPattern hg
  rw [Grammar.scan]
  split
  · next h =>
    simp only [hb, decide_false, Bool.or_false, List.isEmpty_iff] at h
    rw [h, Percent.decode_of_not_mem (by simp), pairsFrom_nil hv.filterKey_ne_nil]
    rfl
  · have hmap := map_searchFrom hv.bracket_not_mem [] (Percent.decode (Grammar.strip input.toList))
      none [] (Nat.lt_add_of_pos_right (by decide : 0 < 2))
    rw [Grammar.matchesIn, Pattern.search, List.map_map]
    exact hmap

/-- The grammar accepts its language and nothing else. -/
theorem scan_decoded (hv : o.validate = .ok ()) (hg : FilterGrammar.ofOptions o = .ok g)
    (hb : o.matchBudget ≠ 0) {input : String} (ht : Text.trim input.toList = input.toList)
    (hq : input.toList.head? ≠ some '?') (hp : '%' ∉ input.toList) :
    g.scan input = (pairsFrom o.filterKey o.groupKeyword true input.toList).map toMatch := by
  rw [scan_eq (Options.validate_eq_ok.mp hv) hg hb, Grammar.strip_of_trim ht hq,
    Percent.decode_of_not_mem hp]

lemma exists_ofOptions_standard : ∃ g, FilterGrammar.ofOptions .standard = .ok g := by
  have hfits : (pattern .standard).fits = true := by decide +kernel
  exact Grammar.exists_ofPattern hfits _ _

def crowdedQuery : String :=
  "filter[a]&FILTER[Group][$oR][a&filter=b][٣][0][p=q][$ltE]=5[=&filter[1][b]="

theorem scan_crowdedQuery :
    ∃ g, Options.standard.validate = .ok () ∧ FilterGrammar.ofOptions .standard = .ok g ∧
      Options.standard.matchBudget ≠ 0 ∧ Text.trim crowdedQuery.toList = crowdedQuery.toList ∧
      crowdedQuery.toList.head? ≠ some '?' ∧ '%' ∉ crowdedQuery.toList ∧
      g.scan crowdedQuery =
        [ ⟨[("value", "5[="), ("operator", "ltE"), ("path", "[0][p=q]"), ("groupIndex", "٣"),
            ("memberOf", "a&filter=b"), ("conjunction", "oR"), ("type", "Group")]⟩,
          ⟨[("value", ""), ("path", "[b]"), ("groupIndex", "1")]⟩ ] := by
  have hv : Options.standard.validate = .ok () :=
    Options.validate_eq_ok.mpr ⟨by decide +kernel, by decide⟩
  obtain ⟨g, hg⟩ := exists_ofOptions_standard
  have hb : Options.standard.matchBudget ≠ 0 := by decide
  have ht : Text.trim crowdedQuery.toList = crowdedQuery.toList := by decide +kernel
  have hq : crowdedQuery.toList.head? ≠ some '?' := by decide +kernel
  have hp : '%' ∉ crowdedQuery.toList := by decide +kernel
  refine ⟨g, hv, hg, hb, ht, hq, hp, ?_⟩
  rw [scan_decoded hv hg hb ht hq hp]
  decide +kernel

end

end FilterPair

end BracketQuery
