import BracketQuery.Proofs.Grammar.Pair
import BracketQuery.Proofs.Percent

/-! A query of readable pairs has these pairs as its matches. -/

namespace BracketQuery

open FilterGrammar Pattern

lemma Options.IsValid.filterKey_ne_nil {o : Options} (hv : o.IsValid) : o.filterKey.toList ≠ [] :=
  fun h => hv.ne_empty (by simp) (String.toList_eq_nil_iff.mp h)

lemma Options.IsValid.not_mem {o : Options} (hv : o.IsValid) {c : Char}
    (hc : Options.isGrammarChar c = true) {key : String}
    (hk : key ∈ [o.filterKey, o.groupKeyword, o.pageKey]) : c ∉ key.toList := by
  intro h
  have hany := List.any_eq_false.mp (hv.1 key hk).2 _ h
  exact hany hc

lemma Options.IsValid.bracket_not_mem {o : Options} (hv : o.IsValid) :
    ']' ∉ o.groupKeyword.toList :=
  hv.not_mem rfl (by simp)

lemma Grammar.exists_ofPattern {p : Pattern} (h : p.fits = true) (text : String) (budget : Nat) :
    ∃ g, Grammar.ofPattern text p budget = .ok g := by
  rw [Grammar.ofPattern, if_pos h]
  exact ⟨_, rfl⟩

lemma Grammar.eq_of_ofPattern {text : String} {p : Pattern} {budget : Nat} {g : Grammar}
    (h : Grammar.ofPattern text p budget = .ok g) : g = ⟨text, p, budget⟩ := by
  unfold Grammar.ofPattern at h
  split at h
  · cases h
    rfl
  · cases h

namespace FilterPair

def query (key : String) (ps : List FilterPair) : List Char :=
  ['&'].intercalate (ps.map fun p => p.text key)

def matched (key : String) (p : FilterPair) : GrammarMatch := ⟨(captured (p.pieces key)).reverse⟩

def rows (key : String) : List FilterPair → List (List Piece)
  | [] => []
  | p :: ps => p.pieces key :: ps.map fun q => ⟨none, ['&']⟩ :: q.pieces key

lemma flatMap_rows (key : String) (ps : List FilterPair) :
    (rows key ps).flatMap textOf = query key ps := by
  cases ps with
  | nil => rfl
  | cons p ps =>
    rw [query, List.map_cons, rows, List.flatMap_cons]
    induction ps generalizing p with
    | nil => simp [text]
    | cons q ps ih =>
      rw [List.map_cons, List.flatMap_cons, List.map_cons, List.intercalate_cons_cons, ← ih q]
      simp [text]

lemma nodup_names (key : String) (p : FilterPair) :
    ((p.pieces key).filterMap Piece.name).Nodup := by
  obtain ⟨k, c, m, i, s, op, v⟩ := p
  cases k <;> cases c <;> cases m <;> cases i <;> cases op <;> simp [pieces, part] <;> decide

def field (name : String) (x : Option String) : List (String × String) :=
  (x.map fun s => (name, s)).toList

lemma lookup_field (n m : String) (x : Option String) :
    (field n x).lookup m = if m = n then x else none := by
  cases x with
  | none => simp [field]
  | some s =>
    by_cases h : m = n
    · simp [field, h]
    · simp [field, h, List.lookup_cons, beq_eq_false_iff_ne.mpr h]

lemma captured_part (mark : List Char) (n : String) (x : Option String) :
    captured (part mark n x) = field n x := by
  cases x <;> simp [part, captured, field]

lemma captured_append (ps qs : List Piece) : captured (ps ++ qs) = captured ps ++ captured qs :=
  List.filterMap_append

lemma captures_matched (key : String) (p : FilterPair) :
    (p.matched key).captures =
      field FilterGrammar.value (some p.value) ++ (field FilterGrammar.operator p.operator ++
        (field path (some (String.ofList p.pathText)) ++ (field groupIndex p.index ++
          (field memberOf p.member ++ (field FilterGrammar.conjunction p.conjunction ++
            field FilterGrammar.kind p.kind))))) := by
  have hrev (n : String) (x : Option String) : (field n x).reverse = field n x := by
    cases x <;> rfl
  simp only [matched, pieces, captured_append, captured_part, List.reverse_append, hrev]
  simp [captured, field]

section

variable (key : String) (p : FilterPair)

lemma get_matched (name : String) :
    (p.matched key).get name =
      ((if name = FilterGrammar.value then some p.value else none).or
        ((if name = FilterGrammar.operator then p.operator else none).or
          ((if name = path then some (String.ofList p.pathText) else none).or
            ((if name = groupIndex then p.index else none).or
              ((if name = memberOf then p.member else none).or
                ((if name = FilterGrammar.conjunction then p.conjunction else none).or
                  (if name = FilterGrammar.kind then p.kind else none))))))) := by
  simp only [GrammarMatch.get, captures_matched, List.lookup_append, lookup_field]

lemma get_parts :
    (p.matched key).get FilterGrammar.kind = p.kind ∧
    (p.matched key).get FilterGrammar.conjunction = p.conjunction ∧
    (p.matched key).get memberOf = p.member ∧ (p.matched key).get groupIndex = p.index ∧
    (p.matched key).get path = some (String.ofList p.pathText) ∧
    (p.matched key).get FilterGrammar.operator = p.operator ∧
    (p.matched key).get FilterGrammar.value = some p.value := by
  simp [get_matched, FilterGrammar.kind, FilterGrammar.conjunction, memberOf, groupIndex, path,
    FilterGrammar.operator, FilterGrammar.value]

end

section

variable {o : Options} {ps : List FilterPair}

lemma reads_pairStart_nil {after : List Char} : Reads [] pairStart [] after := by
  intro spans
  rw [pairStart, run]
  simp [Cursor.pass?, Cursor.head?_merge, run, Boundary.holds, Cursor.between, Cursor.recordAll]

lemma reads_pairStart_cons {before after : List Char} (h : before ≠ []) :
    Reads before pairStart [⟨none, ['&']⟩] after := by
  intro spans
  have hr : Reads before (word ['&']) [⟨none, ['&']⟩] after := reads_word (Text.foldsTo_self _)
  have hl : (look .textStart).run none (.between before ('&' :: after) spans) = [] := by
    simp [run, Boundary.holds, Cursor.between, h]
  rw [pairStart, run]
  simp only [Cursor.pass?, Cursor.head?_merge, Option.map_none]
  rw [hr spans]
  exact congrArg (fun cs => Option.or (List.head? cs) _) hl

lemma fails_pattern_nil (hkey : o.filterKey.toList ≠ []) : (pattern o).Fails [] := by
  intro c hc
  rw [List.eq_nil_iff_forall_not_mem]
  intro e he
  obtain ⟨d, hd, he⟩ := mem_run_join_cons he
  obtain ⟨d', hd', -⟩ := mem_run_join_cons he
  have hrest : d.rest = [] := by
    rw [pairStart, run] at hd
    simp only [Cursor.pass?, Option.map_none] at hd
    rcases Cursor.mem_merge hd with hd | hd
    · rw [run] at hd
      split at hd
      · rw [List.mem_singleton.mp hd, hc]
      · cases hd
    · obtain ⟨x, hx, -⟩ := takes_word _ _ _ hd
      exact (List.append_eq_nil_iff.mp (hx.symm.trans hc)).2
  obtain ⟨x, hx, hf⟩ := takes_word _ _ _ hd'
  rw [hrest] at hx
  rw [(List.append_eq_nil_iff.mp hx.symm).1] at hf
  cases hw : o.filterKey.toList with
  | nil => exact hkey hw
  | cons a w =>
    rw [hw] at hf
    cases hf

lemma textOf_pieces_ne_nil (hkey : o.filterKey.toList ≠ []) (p : FilterPair) :
    textOf (p.pieces o.filterKey) ≠ [] := by
  rw [pieces, textOf_append]
  intro h
  apply hkey
  simpa using (List.append_eq_nil_iff.mp h).1

lemma starts_no_value (key : String) :
    ∀ c ∈ ((ps.map fun q => ⟨none, ['&']⟩ :: q.pieces key).flatMap textOf).head?,
      valueChars.contains c = false := by
  intro c hc
  cases ps with
  | nil => cases hc
  | cons q ps =>
    cases hc
    decide

lemma readsEach_rows_cons {before : List Char} (hkey : o.filterKey.toList ≠ [])
    (hk : ']' ∉ o.groupKeyword.toList) (hp : ∀ p ∈ ps, p.IsReadable o.groupKeyword)
    (hb : before ≠ []) :
    (pattern o).ReadsEach before (ps.map fun q => ⟨none, ['&']⟩ :: q.pieces o.filterKey) := by
  induction ps generalizing before with
  | nil => exact fails_pattern_nil hkey
  | cons p ps ih =>
    refine ⟨by simp, ?_, ih (fun q hq => hp q (by simp [hq])) (by simp)⟩
    have hread := hp p (by simp)
    exact (reads_pairStart_cons hb).join
      (hread.reads (Text.foldsTo_self _) hk (starts_no_value _))

lemma readsEach_rows (hkey : o.filterKey.toList ≠ []) (hk : ']' ∉ o.groupKeyword.toList)
    (hp : ∀ p ∈ ps, p.IsReadable o.groupKeyword) :
    (pattern o).ReadsEach [] (rows o.filterKey ps) := by
  cases ps with
  | nil => exact fails_pattern_nil hkey
  | cons p ps =>
    have hne := textOf_pieces_ne_nil hkey p
    refine ⟨hne, ?_, readsEach_rows_cons hkey hk (fun q hq => hp q (by simp [hq])) hne⟩
    have hread := hp p (by simp)
    exact reads_pairStart_nil.join (hread.reads (Text.foldsTo_self _) hk (starts_no_value _))

theorem scan_query {g : Grammar} (hg : FilterGrammar.ofOptions o = .ok g) (hv : o.IsValid)
    (hb : o.matchBudget ≠ 0) (hp : ∀ p ∈ ps, p.IsReadable o.groupKeyword) (hne : ps ≠ []) :
    g.scan (String.ofList (Percent.encode (query o.filterKey ps))) =
      ps.map (matched o.filterKey) := by
  have hkey := hv.filterKey_ne_nil
  have hk := hv.bracket_not_mem
  obtain rfl := Grammar.eq_of_ofPattern hg
  have hread := readsEach_rows hkey hk hp
  have hq : query o.filterKey ps ≠ [] := by
    rw [← flatMap_rows]
    cases ps with
    | nil => exact absurd rfl hne
    | cons p ps =>
      rw [rows, List.flatMap_cons]
      exact List.append_ne_nil_of_left_ne_nil (textOf_pieces_ne_nil hkey p) _
  have hn : ∀ qs ∈ rows o.filterKey ps, (qs.filterMap Piece.name).Nodup := by
    intro qs hqs
    cases ps with
    | nil => cases hqs
    | cons p ps =>
      rcases List.mem_cons.mp hqs with rfl | hqs
      · exact nodup_names _ p
      · obtain ⟨q, -, rfl⟩ := List.mem_map.mp hqs
        exact nodup_names o.filterKey q
  have hm := @Grammar.matchesIn_eq ⟨FilterGrammar.text o, pattern o, o.matchBudget⟩ _ hread hn
  rw [Grammar.scan_encode hb hq, ← flatMap_rows, hm]
  cases ps with
  | nil => rfl
  | cons p ps => simp [rows, matched, captured]

end

end FilterPair

end BracketQuery
