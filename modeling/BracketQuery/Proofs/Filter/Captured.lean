import BracketQuery.Proofs.Filter.Written
import BracketQuery.Proofs.Text.Split
import Mathlib.Data.List.Basic

/-! The pairs of a written tree and what is captured from them. -/

namespace BracketQuery

open FilterGrammar (contentOf)

namespace Operator

lemma token_spec {o : Operator} (h : o ≠ none) :
    ofToken? o.token = some o ∧ o.token ∈ FilterGrammar.operatorTokens ∧ o.token ≠ "" := by
  cases o with
  | none => exact absurd rfl h
  | _ => decide

end Operator

namespace Conjunction

lemma token_spec (c : Conjunction) :
    ofToken? c.token = some c ∧ c.token ∈ FilterGrammar.conjunctionTokens ∧ c.token ≠ "" := by
  cases c <;> decide

end Conjunction

namespace Capture

lemma nonBlank_eq_some {s : String} (ht : Text.trimmed s = s) (hb : Text.isBlankString s = false) :
    nonBlank s = some s := by
  have hne : s ≠ "" := by
    rintro rfl
    cases hb
  simp [nonBlank, ht, hne]

lemma filterMap_splitWhere_enclosed (xs : List (List Char)) (h : ∀ x ∈ xs, '[' ∉ x ∧ ']' ∉ x) :
    (Text.splitWhere (fun c => c == '[' || c == ']') (xs.flatMap FilterGrammar.enclosed)).filterMap
        (fun s => nonBlank (String.ofList s)) =
      xs.filterMap fun s => nonBlank (String.ofList s) := by
  have hnil : nonBlank (String.ofList []) = none := by decide
  induction xs with
  | nil => simp [Text.splitWhere, hnil]
  | cons x xs ih =>
    have hx : ∀ c ∈ x, (c == '[' || c == ']') = false := by
      intro c hc
      rw [Bool.or_eq_false_iff, beq_eq_false_iff_ne, beq_eq_false_iff_ne]
      exact ⟨fun e => (h x (by simp)).1 (e ▸ hc), fun e => (h x (by simp)).2 (e ▸ hc)⟩
    have hsplit : Text.splitWhere (fun c => c == '[' || c == ']')
        ((x :: xs).flatMap FilterGrammar.enclosed) =
        [] :: x :: Text.splitWhere (fun c => c == '[' || c == ']')
          (xs.flatMap FilterGrammar.enclosed) := by
      rw [List.flatMap_cons, FilterGrammar.enclosed, List.cons_append, List.cons_append,
        List.append_assoc, Text.splitWhere, if_pos (by decide), List.singleton_append,
        Text.splitWhere_append_cons _ hx (by decide)]
    rw [hsplit, List.filterMap_cons, hnil, List.filterMap_cons, List.filterMap_cons,
      ih fun y hy => h y (by simp [hy])]

lemma pathSegments_eq (p : FilterPair)
    (h : ∀ s ∈ p.segments, '[' ∉ s.toList ∧ ']' ∉ s.toList) :
    pathSegments (String.ofList p.pathText) = p.segments.filterMap nonBlank := by
  rw [pathSegments, String.toList_ofList, FilterPair.pathText, filterMap_splitWhere_enclosed]
  · simp [List.filterMap_map]
  · simpa using h

lemma filter_nonEmpty {s : String} (h : s ≠ "") : (some s).filter (· != "") = some s := by
  simp [Option.filter, h]

variable {p : FilterPair} (d : Char) (key : String)

lemma ofMatch?_declaration {k name : String} (hk : p.kind = some k) (hne : k ≠ "")
    (hname : nonBlank p.value = some name) :
    ofMatch? d (p.matched key) =
      some (.declaration ⟨name, p.member.bind nonBlank,
        (p.conjunction.filter (· != "")).bind Conjunction.ofToken?⟩) := by
  obtain ⟨gk, gc, gm, -, -, -, gv⟩ := FilterPair.get_parts key p
  simp [ofMatch?, GrammarMatch.getNonEmpty, gk, gc, gm, gv, hk, hne, hname]

lemma ofMatch?_clause (path : String) (op : Operator) {i : String} (hk : p.kind = none)
    (hi : p.index = some i) (hne : i ≠ "") (hs : p.segments ≠ [])
    (hplain : ∀ s ∈ p.segments, '[' ∉ s.toList ∧ ']' ∉ s.toList)
    (hpath : ".".intercalate (p.segments.filterMap nonBlank) = path)
    (hb : (Text.pieces '.' path).all Text.isBlankString = false)
    (hop : ((p.operator.filter (· != "")).bind Operator.ofToken?).getD .standard = op) :
    ofMatch? d (p.matched key) =
      some (.clause ⟨p.member.bind nonBlank,
        (p.conjunction.filter (· != "")).bind Conjunction.ofToken?, path, op,
        if op = .regex then [p.value] else Text.pieces d p.value⟩) := by
  obtain ⟨gk, gc, gm, gi, gp, go, gv⟩ := FilterPair.get_parts key p
  have htext : String.ofList p.pathText ≠ "" := by
    obtain ⟨s, ss, he⟩ := List.exists_cons_of_ne_nil hs
    intro h
    have := congrArg String.toList h
    simp [FilterPair.pathText, he, FilterGrammar.enclosed] at this
  have hparent : parentOrSegments (p.member.bind nonBlank) (some i)
      (some (String.ofList p.pathText)) = (p.member.bind nonBlank, []) := by
    cases p.member.bind nonBlank <;> rfl
  unfold ofMatch?
  simp only [GrammarMatch.getNonEmpty, gk, gc, gm, gi, gp, go, gv, hk, hi]
  rw [filter_nonEmpty hne, filter_nonEmpty htext, hparent]
  simp [pathSegments_eq p hplain, hpath, hb, hop]

lemma ofMatch?_path {name path : String} {op : Operator} (hk : p.kind = none)
    (hc : p.conjunction = none) (hm : p.member.bind nonBlank = some name)
    (hi : ∀ i ∈ p.index, i ≠ "" ∧ p.segments = [])
    (hplain : ∀ s ∈ p.segments, '[' ∉ s.toList ∧ ']' ∉ s.toList)
    (hpath : ".".intercalate (name :: (p.index.toList ++ p.segments.filterMap nonBlank)) = path)
    (hb : (Text.pieces '.' path).all Text.isBlankString = false)
    (hop : ((p.operator.filter (· != "")).bind Operator.ofToken?).getD .standard = op) :
    ofMatch? d (p.matched key) =
      some (.clause ⟨none, none, path, op,
        if op = .regex then [p.value] else Text.pieces d p.value⟩) := by
  obtain ⟨gk, gc, gm, gi, gp, go, gv⟩ := FilterPair.get_parts key p
  have hsegments : parentOrSegments (some name) (p.index.filter (· != ""))
      ((some (String.ofList p.pathText)).filter (· != "")) =
      (none, name :: p.index.toList) := by
    cases hindex : p.index with
    | none => rfl
    | some i =>
      obtain ⟨hne, hnil⟩ := hi i hindex
      rw [filter_nonEmpty hne, FilterPair.pathText, hnil]
      rfl
  unfold ofMatch?
  simp only [GrammarMatch.getNonEmpty, gk, gc, gm, gi, gp, go, gv, hk, hc, hm]
  rw [hsegments]
  simp [pathSegments_eq p hplain, hpath, hb, hop]

end Capture

section

variable {o : Options} {owner h : Heading} {l : Leaf} {packed : Bool} {keyword parent : String}

lemma bounds_of_nameStart {c : Char} (h : c.isAlpha = true ∨ c = '_') :
    (65 ≤ c.toNat ∧ c.toNat ≤ 90) ∨ (97 ≤ c.toNat ∧ c.toNat ≤ 122) ∨ c.toNat = 95 := by
  rcases h with h | rfl
  · have hc := Text.bounds_of_isAlpha h
    omega
  · decide

lemma contains_nameStart_of_isAlpha {c : Char} (h : c.isAlpha = true ∨ c = '_') :
    FilterGrammar.nameStart.contains c = true := by
  have hb := bounds_of_nameStart h
  simp only [FilterGrammar.nameStart, CharSet.contains, List.any_cons, List.any_nil,
    Bool.or_false, Bool.or_eq_true, Bool.and_eq_true, decide_eq_true_eq]
  omega

lemma Heading.IsWritable.toList_eq (hh : h.IsWritable keyword parent) :
    ∃ c s, h.name.toList = c :: s ∧ (c.isAlpha = true ∨ c = '_') := by
  obtain ⟨c, hc, ha⟩ := hh.start
  obtain ⟨s, hs⟩ := List.head?_eq_some_iff.mp hc
  exact ⟨c, s, hs, ha⟩

lemma Heading.IsWritable.not_blank (hh : h.IsWritable keyword parent) :
    Text.isBlankString h.name = false := by
  obtain ⟨c, s, hs, hc⟩ := hh.toList_eq
  have hb := bounds_of_nameStart hc
  refine List.all_eq_false.mpr ⟨c, by simp [hs], ?_⟩
  rw [Text.isBlank_eq_false (by omega) (by omega)]
  simp

lemma Heading.IsWritable.readable (hh : h.IsWritable keyword parent) :
    ∃ c s, h.name.toList = c :: s ∧ FilterGrammar.nameStart.contains c = true ∧
      ∀ d ∈ s, FilterGrammar.segmentChars.contains d = true := by
  obtain ⟨c, s, hs, hc⟩ := hh.toList_eq
  refine ⟨c, s, hs, contains_nameStart_of_isAlpha hc, fun d hd => ?_⟩
  obtain ⟨hl, hr, hdollar, -⟩ := hh.plain d (by simp [hs, hd])
  exact FilterGrammar.contains_segmentChars hl hr hdollar

def Heading.IsNameable (keyword : String) (h : Heading) : Prop :=
  h.name ≠ rootName → ∃ parent, h.IsWritable keyword parent

lemma Heading.IsNameable.member (hn : owner.IsNameable keyword) {g : String}
    (hg : g ∈ memberName owner.name) : g = owner.name ∧ ∃ parent, owner.IsWritable keyword parent := by
  rw [memberName] at hg
  split at hg
  · cases hg
  · next hne =>
    cases hg
    exact ⟨rfl, hn hne⟩

lemma Heading.IsNameable.readable (hn : owner.IsNameable keyword) :
    ∀ g ∈ memberName owner.name, ∃ c s, g.toList = c :: s ∧
      FilterGrammar.nameStart.contains c = true ∧
      ∀ d ∈ s, FilterGrammar.segmentChars.contains d = true := by
  intro g hg
  obtain ⟨rfl, parent, hw⟩ := hn.member hg
  exact hw.readable

lemma isReadable_zero : "0".toList ≠ [] ∧
    ∀ c ∈ "0".toList, Text.decimalDigits.contains c = true := by
  refine ⟨by decide, ?_⟩
  intro c hc
  obtain rfl : c = '0' := by simpa using hc
  exact Text.contains_decimalDigits_of_isDigit (by decide)

lemma Heading.IsWritable.pair_readable (hh : h.IsWritable o.groupKeyword parent)
    (hn : owner.IsNameable o.groupKeyword) : (h.pair o owner).IsReadable o.groupKeyword where
  kind := by
    rintro k ⟨⟩
    exact Text.foldsTo_self _
  noKind := by rintro ⟨⟩
  conjunction := by
    rintro t ⟨⟩
    exact FilterGrammar.isToken_of_mem (Conjunction.token_spec h.conjunction).2.1
  noConjunction := by rintro ⟨⟩
  member := hn.readable
  noMember := by
    intro hm
    have hm : memberName owner.name = none := hm
    simp [FilterPair.indexContents, FilterPair.pathContents, Heading.pair, hm, contentOf]
  index := by
    intro i hi
    obtain ⟨_, -, rfl⟩ := Option.map_eq_some_iff.mp hi
    exact isReadable_zero
  noIndex := by
    intro _ x hx
    cases hx
  segments := by
    intro s hs
    cases hs
  operator := by rintro t ⟨⟩
  value := by
    intro c hc
    exact FilterGrammar.contains_valueChars (hh.plain c hc).2.2.2

def valuesIn (delimiter : Char) (operator : Operator) (v : String) : List String :=
  if operator = .regex then [v] else Text.pieces delimiter v

lemma Leaf.IsWritable.texts_spec {d : Char} (hl : l.IsWritable d parent) (packed : Bool) :
    l.texts d packed ≠ [] ∧ (∀ v ∈ l.texts d packed, '&' ∉ v.toList) ∧
      (l.texts d packed).flatMap (valuesIn d l.operator) = l.values.toList := by
  unfold Leaf.texts
  split
  · next h =>
    simp only [Bool.and_eq_true, bne_iff_ne, ne_eq] at h
    obtain ⟨⟨-, hop⟩, hd⟩ := h
    have hfree : ∀ v ∈ l.values.toList, d ∉ v.toList := fun v hv => (hl.value v hv).2 hop
    refine ⟨by simp, ?_, ?_⟩
    · intro v hv hamp
      rw [List.mem_singleton.mp hv, String.toList_ofList] at hamp
      rcases Text.mem_intercalate hamp with he | ⟨x, hx, hc⟩
      · exact hd he.symm
      · obtain ⟨w, hw, rfl⟩ := List.mem_map.mp hx
        exact (hl.value w hw).1 hc
    · simp [valuesIn, hop, Text.pieces_intercalate hl.values hfree]
  · refine ⟨hl.values, fun v hv => (hl.value v hv).1, ?_⟩
    have hone : ∀ v ∈ l.values.toList, valuesIn d l.operator v = [v] := by
      intro v hv
      unfold valuesIn
      split
      · rfl
      · next hop => exact Text.pieces_of_not_mem ((hl.value v hv).2 hop)
    rw [List.flatMap_congr hone]
    simp

lemma Leaf.IsWritable.not_blank {d : Char} (hl : l.IsWritable d parent) :
    Text.isBlankString l.path = false := by
  obtain ⟨s, hs, hb⟩ := hl.segment
  exact Text.not_isBlankString_of_piece hs hb

lemma Leaf.IsWritable.path_readable {d : Char} (hl : l.IsWritable d parent) :
    l.path.toList ≠ [] ∧ ∀ c ∈ l.path.toList, FilterGrammar.segmentChars.contains c = true := by
  constructor
  · intro h
    have hb := hl.not_blank
    rw [Text.isBlankString, h] at hb
    cases hb
  · intro c hc
    obtain ⟨hl, hr, hd⟩ := hl.plain c hc
    exact FilterGrammar.contains_segmentChars hl hr hd

lemma Options.IsUnambiguous.foldsTo_token (hu : o.IsUnambiguous) (c : Conjunction) :
    Text.foldsTo o.groupKeyword.toList ('$' :: c.token.toList) = false := by
  cases c with
  | and => exact hu.notAnd
  | or => exact hu.notOr

lemma Leaf.IsWritable.pairs_readable (hl : l.IsWritable o.valueDelimiter parent)
    (hu : o.IsUnambiguous) (hn : owner.IsNameable o.groupKeyword) {p : FilterPair}
    (hp : p ∈ l.pairs o packed owner) : p.IsReadable o.groupKeyword := by
  obtain ⟨v, hv, rfl⟩ := List.mem_map.mp hp
  have hzero : FilterGrammar.nameStart.contains '0' = false := by decide
  have hop := (Operator.token_spec hl.operator).2.1
  refine ⟨by simp, ?_, ?_, ?_, hn.readable, ?_, ?_, by simp, ?_, ?_, ?_⟩
  · intro _ x hx
    by_cases hr : owner.name = rootName
    · obtain rfl : '$' :: owner.conjunction.token.toList = x := by
        simpa [FilterPair.conjunctionContents, hr, contentOf] using hx
      exact hu.foldsTo_token _
    · obtain ⟨_, hw⟩ := hn hr
      obtain rfl : owner.name.toList = x := by
        simpa [FilterPair.conjunctionContents, FilterPair.memberContents, memberName, hr,
          contentOf] using hx
      exact hw.keyword
  · intro t ht
    by_cases hr : owner.name = rootName
    · obtain rfl : owner.conjunction.token = t := by simpa [hr] using ht
      exact FilterGrammar.isToken_of_mem (Conjunction.token_spec _).2.1
    · simp [hr] at ht
  · intro hc x hx
    by_cases hr : owner.name = rootName
    · simp [hr] at hc
    · obtain ⟨_, hw⟩ := hn hr
      obtain ⟨c, s, hs, hc⟩ := hw.toList_eq
      have hb := bounds_of_nameStart hc
      obtain rfl : owner.name.toList = x := by
        simpa [FilterPair.memberContents, memberName, hr, contentOf] using hx
      rw [hs]
      apply FilterGrammar.isMarked_of_ne
      rintro rfl
      revert hb
      decide
  · intro _ x hx c hc
    obtain rfl : ['0'] = x := by simpa [FilterPair.indexContents, contentOf] using hx
    cases hc
    exact hzero
  · rintro i ⟨⟩
    exact isReadable_zero
  · intro s hs
    obtain rfl := List.mem_singleton.mp hs
    exact hl.path_readable
  · rintro t ⟨⟩
    exact FilterGrammar.isToken_of_mem hop
  · intro c hc
    apply FilterGrammar.contains_valueChars
    rintro rfl
    exact (hl.texts_spec packed).2.1 v hv hc

lemma Heading.IsNameable.bind_nonBlank (hn : owner.IsNameable keyword) :
    (memberName owner.name).bind Capture.nonBlank = memberName owner.name := by
  unfold memberName
  split
  · rfl
  · next hr =>
    obtain ⟨_, hw⟩ := hn hr
    rw [Option.bind_some]
    exact Capture.nonBlank_eq_some hw.trimmed hw.not_blank

def Heading.declaration (h owner : Heading) : Declaration :=
  ⟨h.name, memberName owner.name, some h.conjunction⟩

def Leaf.clauses (delimiter : Char) (packed : Bool) (owner : Heading) (l : Leaf) : List Clause :=
  (l.texts delimiter packed).map fun v =>
    ⟨memberName owner.name, if owner.name = rootName then some owner.conjunction else none,
      l.path, l.operator, valuesIn delimiter l.operator v⟩

lemma Heading.IsWritable.ofMatch?_pair (hh : h.IsWritable keyword parent)
    (hn : owner.IsNameable keyword) (hk : o.groupKeyword ≠ "") (d : Char) (key : String) :
    Capture.ofMatch? d ((h.pair o owner).matched key) =
      some (.declaration (h.declaration owner)) := by
  obtain ⟨ht, -, hne⟩ := Conjunction.token_spec h.conjunction
  have hname := Capture.nonBlank_eq_some hh.trimmed hh.not_blank
  rw [Capture.ofMatch?_declaration d key (p := h.pair o owner) rfl hk hname]
  simp [Heading.pair, Heading.declaration, hn.bind_nonBlank, Capture.filter_nonEmpty hne, ht]

lemma Leaf.IsWritable.ofMatch?_pairs (hl : l.IsWritable o.valueDelimiter parent)
    (hn : owner.IsNameable keyword) (key : String) :
    (l.pairs o packed owner).filterMap (fun p => Capture.ofMatch? o.valueDelimiter (p.matched key)) =
      (l.clauses o.valueDelimiter packed owner).map .clause := by
  obtain ⟨ht, -, hop⟩ := Operator.token_spec hl.operator
  obtain ⟨hc, -, hcne⟩ := Conjunction.token_spec owner.conjunction
  have hpath := Capture.nonBlank_eq_some hl.trimmed hl.not_blank
  have hpieces : (Text.pieces '.' l.path).all Text.isBlankString = false := by
    obtain ⟨s, hs, hsb⟩ := hl.segment
    exact List.all_eq_false.mpr ⟨s, hs, by simp [hsb]⟩
  unfold Leaf.pairs Leaf.clauses
  rw [List.filterMap_map, List.map_map, ← List.filterMap_eq_map]
  apply List.filterMap_congr
  intro v _
  rw [Function.comp_apply, Capture.ofMatch?_clause o.valueDelimiter key l.path l.operator rfl rfl
    (by decide) (by simp) _ (by simp [hpath]) hpieces (by simp [Capture.filter_nonEmpty hop, ht])]
  · dsimp only
    rw [hn.bind_nonBlank]
    split
    · simp [Capture.filter_nonEmpty hcne, hc, valuesIn]
    · simp [valuesIn]
  · simpa using ⟨fun h => (hl.plain _ h).1 rfl, fun h => (hl.plain _ h).2.1 rfl⟩

end

end BracketQuery
