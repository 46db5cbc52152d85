import BracketQuery.Proofs.Grammar.Page
import BracketQuery.Proofs.Grammar.Scan
import Mathlib.Data.List.Infix
import Mathlib.Data.List.TakeWhile

/-! Queries that are put together from pieces. No match goes from one piece into the next one. -/

namespace BracketQuery

open FilterGrammar Pattern

/-- Every opening bracket has a closing one somewhere after it. -/
def BracketsClose (s : List Char) : Prop := ∀ t ∈ s.tails, t.head? = some '[' → ']' ∈ t

instance (s : List Char) : Decidable (BracketsClose s) :=
  inferInstanceAs (Decidable (∀ t ∈ s.tails, _))

variable {s t x : List Char}

lemma BracketsClose.of_suffix (h : BracketsClose s) (ht : t <:+ s) : BracketsClose t := by
  intro u hu
  exact h u ((List.mem_tails u s).mpr (((List.mem_tails u t).mp hu).trans ht))

namespace FilterGrammar

lemma not_mem_brackets (s : List Char) : (∀ x ∈ (brackets s).1, ']' ∉ x) ∧
    ((brackets s).2.head? = some '[' → ']' ∉ (brackets s).2) := by
  fun_induction brackets s with
  | case1 s h =>
    refine ⟨by simp, fun _ => ?_⟩
    rw [List.dropWhile_eq_nil_iff] at h
    simpa using fun hm => h ']' hm
  | case2 s c r h hlt next ih =>
    refine ⟨List.forall_mem_cons.mpr ⟨?_, ih.1⟩, ih.2⟩
    intro hm
    have hne := List.all_eq_true.mp List.all_takeWhile _ hm
    simp at hne
  | case3 s h =>
    refine ⟨by simp, fun he => ?_⟩
    obtain ⟨r, rfl⟩ := List.head?_eq_some_iff.mp he
    exact absurd rfl (h r)

lemma brackets_append (hs : BracketsClose s) (ht : IsEnd t) :
    brackets (s ++ t) = ((brackets s).1, (brackets s).2 ++ t) := by
  obtain ⟨hx, hopen⟩ := not_mem_brackets s
  have hsuffix : (brackets s).2 <:+ s := ⟨_, flatMap_brackets s⟩
  have hhead : ((brackets s).2 ++ t).head? ≠ some '[' := by
    intro he
    rw [List.head?_append, Option.or_eq_some_iff] at he
    rcases he with he | ⟨-, he⟩
    · exact hopen he (hs _ ((List.mem_tails _ _).mpr hsuffix) he)
    · exact absurd (ht _ he) (by decide)
  have hb := brackets_enclosed hx hhead
  rwa [← List.append_assoc, flatMap_brackets] at hb

end FilterGrammar

namespace FilterPair

variable {key keyword : String}

lemma isSome_ofContents? (keyword : String) (xs : List (List Char)) (v w : List Char) :
    (ofContents? keyword xs v).isSome = (ofContents? keyword xs w).isSome := by
  simp only [ofContents?]
  split <;> rfl

lemma exists_brackets_of_read? {r : FilterPair × List Char} (h : read? key keyword s = some r) :
    ∃ k xs v, s = k ++ (xs.flatMap enclosed ++ '=' :: v) ∧ Text.foldsTo key.toList k = true ∧
      (∀ x ∈ xs, ']' ∉ x) ∧ (ofContents? keyword xs (v.takeWhile (· != '&'))).isSome = true := by
  rw [read?, Option.ite_none_right_eq_some] at h
  obtain ⟨hk, h⟩ := h
  have hbrackets := flatMap_brackets (s.drop key.toList.length)
  have hx := (not_mem_brackets (s.drop key.toList.length)).1
  split at h
  · next xs v hb =>
    rw [hb] at hbrackets hx
    refine ⟨s.take key.toList.length, xs, v, ?_, hk, hx, ?_⟩
    · rw [hbrackets, List.take_append_drop]
    · rw [← Option.isSome_map, h, Option.isSome_some]
  · cases h

lemma read?_append_eq_none (hk : '&' ∉ key.toList) (hc : BracketsClose x) (ht : IsEnd t)
    (h : read? key keyword x = none) : read? key keyword (x ++ t) = none := by
  rw [Option.eq_none_iff_forall_ne_some]
  intro r hr
  obtain ⟨k, xs, v, hs, hfold, hx, hsome⟩ := exists_brackets_of_read? hr
  obtain ⟨y, rfl⟩ :=
    exists_append_of_isEnd (Text.not_mem_of_foldsTo isUncased_ampersand hfold hk) ht hs
  rw [List.append_assoc, List.append_right_inj] at hs
  have hb := brackets_append (hc.of_suffix (List.suffix_append k y)) ht
  rw [hs, brackets_enclosed hx (by simp), Prod.mk.injEq] at hb
  obtain ⟨hcontents, hrest⟩ := hb
  obtain ⟨w, hw⟩ := exists_append_of_isEnd (y := ['=']) (by simp) ht hrest.symm
  -- so the piece has the same brackets and an equals sign already
  have hy := flatMap_brackets y
  rw [← hcontents, hw, List.singleton_append] at hy
  rw [← hy, read?_append hfold hx, Option.map_eq_none_iff] at h
  rw [isSome_ofContents? _ _ _ (w.takeWhile (· != '&')), h] at hsome
  cases hsome

lemma settles {o : Options} (hkey : '&' ∉ o.filterKey.toList) (hk : ']' ∉ o.groupKeyword.toList)
    (hx : '&' ∉ x) (hc : BracketsClose x) :
    (join (pairParts o)).Settles x
      ((read? o.filterKey o.groupKeyword x).map fun r => r.1.toMatch) := by
  cases hr : read? o.filterKey o.groupKeyword x with
  | none =>
    intro after ha
    exact fails_pairParts hk (read?_append_eq_none hkey hc ha hr)
  | some r =>
    obtain ⟨p, t⟩ := r
    obtain ⟨k, hfold, rfl, hp, ht⟩ := read?_spec hr
    have hnil : t = [] := by
      cases t with
      | nil => rfl
      | cons c t =>
        have hc := ht c rfl
        rw [contains_valueChars (by rintro rfl; simp at hx)] at hc
        cases hc
    have hne := List.ne_nil_of_length_pos (length_textOf_pieces p k)
    rw [hnil, List.append_nil]
    exact ⟨p.pieces k, hne, rfl, nodup_names k p, (matched_eq_toMatch k p).symm,
      fun before after ha => hp.reads hfold hk ha.not_value⟩

end FilterPair

/-- What may be put between two ampersands of a query as it is. -/
structure IsPiece (s : String) : Prop where
  ampersand : '&' ∉ s.toList
  percent : '%' ∉ s.toList
  front : ∀ c ∈ s.toList.head?, Text.isBlank c = false ∧ c ≠ '?'
  back : ∀ c ∈ s.toList.getLast?, Text.isBlank c = false
  closed : BracketsClose s.toList

lemma isPiece_iff {s : String} : IsPiece s ↔ '&' ∉ s.toList ∧ '%' ∉ s.toList ∧
    s.toList.head?.all (fun c => !Text.isBlank c && c != '?') = true ∧
    s.toList.getLast?.all (fun c => !Text.isBlank c) = true ∧ BracketsClose s.toList := by
  simp only [Option.all_eq_true, Bool.and_eq_true, Bool.not_eq_true', bne_iff_ne]
  exact ⟨fun h => ⟨h.1, h.2, h.3, h.4, h.5⟩, fun ⟨ha, hp, hf, hb, hc⟩ => ⟨ha, hp, hf, hb, hc⟩⟩

instance (s : String) : Decidable (IsPiece s) := decidable_of_iff _ isPiece_iff.symm

lemma decode_strip_intercalate {ps : List String} (h : ∀ s ∈ ps, IsPiece s) :
    Percent.decode (Grammar.strip ("&".intercalate ps).toList) =
      ['&'].intercalate (ps.map String.toList) := by
  have hjoin : ("&".intercalate ps).toList = ['&'].intercalate (ps.map String.toList) :=
    String.toList_intercalate
  have hfront : ∀ c ∈ (['&'].intercalate (ps.map String.toList)).head?,
      Text.isBlank c = false ∧ c ≠ '?' := by
    intro c hc
    rcases Text.mem_head?_intercalate hc with rfl | ⟨x, hx, hc⟩
    · decide
    · obtain ⟨s, hs, rfl⟩ := List.mem_map.mp hx
      exact (h s hs).front c hc
  have hback : ∀ c ∈ (['&'].intercalate (ps.map String.toList)).getLast?,
      Text.isBlank c = false := by
    intro c hc
    rcases Text.mem_getLast?_intercalate hc with rfl | ⟨x, hx, hc⟩
    · decide
    · obtain ⟨s, hs, rfl⟩ := List.mem_map.mp hx
      exact (h s hs).back c hc
  have hpercent : '%' ∉ ['&'].intercalate (ps.map String.toList) := by
    intro hm
    rcases Text.mem_intercalate hm with hc | ⟨x, hx, hc⟩
    · revert hc
      decide
    · obtain ⟨s, hs, rfl⟩ := List.mem_map.mp hx
      exact (h s hs).percent hc
  have htrim := Text.trim_eq_self (fun c hc => (hfront c hc).1) hback
  rw [hjoin, Grammar.strip_of_trim htrim fun hc => (hfront _ hc).2 rfl,
    Percent.decode_of_not_mem hpercent]

lemma splitOn_intercalate_pieces {ps : List String} (hne : ps ≠ []) (h : ∀ s ∈ ps, IsPiece s) :
    Text.splitOn '&' (Percent.decode (Grammar.strip ("&".intercalate ps).toList)) =
      ps.map String.toList := by
  rw [decode_strip_intercalate h]
  exact Text.splitOn_intercalate (by simpa using hne)
    (List.forall_mem_map.mpr fun s hs => (h s hs).ampersand)

def keyOf (s : List Char) : List Char := s.takeWhile fun c => c != '[' && c != '='

lemma keyOf_append {key : String} {k r : List Char} (hl : '[' ∉ key.toList) (he : '=' ∉ key.toList)
    (hk : Text.foldsTo key.toList k = true) (hr : ∀ c ∈ r.head?, c = '[' ∨ c = '=') :
    keyOf (k ++ r) = k := by
  have hl := Text.not_mem_of_foldsTo (by decide +kernel) hk hl
  have he := Text.not_mem_of_foldsTo (by decide +kernel) hk he
  have hkeep : ∀ c ∈ k, (c != '[' && c != '=') = true := by
    intro c hc
    rw [Bool.and_eq_true, bne_iff_ne, bne_iff_ne]
    constructor
    · rintro rfl
      exact hl hc
    · rintro rfl
      exact he hc
  rw [keyOf, List.takeWhile_append_of_pos hkeep]
  cases r with
  | nil => rw [List.takeWhile_nil, List.append_nil]
  | cons c r =>
    obtain rfl | rfl := hr c rfl <;> simp

lemma head?_flatMap_enclosed (xs : List (List Char)) (v : List Char) :
    ∀ c ∈ (xs.flatMap enclosed ++ '=' :: v).head?, c = '[' ∨ c = '=' := by
  cases xs with
  | nil =>
    rintro c ⟨⟩
    exact .inr rfl
  | cons x xs =>
    rintro c ⟨⟩
    exact .inl rfl

section

variable {o : Options} {g : Grammar} {ps : List String}

lemma FilterPair.scan_intercalate (hv : o.IsValid) (hg : FilterGrammar.ofOptions o = .ok g)
    (hb : o.matchBudget ≠ 0) (h : ∀ s ∈ ps, IsPiece s) :
    g.scan ("&".intercalate ps) = ps.filterMap fun s =>
      (read? o.filterKey o.groupKeyword s.toList).map fun r => r.1.toMatch := by
  obtain rfl := Grammar.eq_of_ofPattern hg
  cases ps with
  | nil => rfl
  | cons s ps =>
    have hsplit := splitOn_intercalate_pieces (List.cons_ne_nil s ps) h
    have hsettles : ∀ x ∈ (s :: ps).map String.toList, (join (pairParts o)).Settles x
        ((read? o.filterKey o.groupKeyword x).map fun r => r.1.toMatch) :=
      List.forall_mem_map.mpr fun s hs => settles (hv.not_mem rfl (by simp)) hv.bracket_not_mem
        (h s hs).ampersand (h s hs).closed
    rw [← hsplit] at hsettles
    rw [Grammar.scan_separated (pattern_eq o) hb rfl hsettles, hsplit, List.filterMap_map]
    rfl

lemma FilterPair.read?_of_other_key (hv : o.IsValid)
    (h : Text.foldsTo o.filterKey.toList (keyOf x) = false) :
    read? o.filterKey o.groupKeyword x = none := by
  rw [Option.eq_none_iff_forall_ne_some]
  rintro ⟨p, t⟩ hr
  obtain ⟨k, hk, rfl, -⟩ := read?_spec hr
  rw [textOf_pieces, List.append_assoc, List.append_assoc, List.cons_append,
    keyOf_append (hv.not_mem rfl (by simp)) (hv.not_mem rfl (by simp)) hk
      (head?_flatMap_enclosed _ _), hk] at h
  cases h

lemma PagePair.scan_intercalate (hv : o.IsValid) (hg : PageGrammar.ofOptions o = .ok g)
    (hb : o.matchBudget ≠ 0) (h : ∀ s ∈ ps, IsPiece s) :
    g.scan ("&".intercalate ps) = ps.filterMap fun s =>
      (read? o.pageKey s.toList).map toMatch := by
  cases ps with
  | nil => rfl
  | cons s ps =>
    rw [scan_eq hv hg hb, splitOn_intercalate_pieces (List.cons_ne_nil s ps) h, List.filterMap_map]
    rfl

lemma PagePair.read?_of_other_key (hv : o.IsValid)
    (h : Text.foldsTo o.pageKey.toList (keyOf x) = false) : read? o.pageKey x = none := by
  rw [Option.eq_none_iff_forall_ne_some]
  intro p hr
  obtain ⟨k, rfl, hk, -⟩ := read?_eq_some.mp hr
  have hhead := head?_flatMap_enclosed [p.property.toList] p.value.toList
  rw [List.flatMap_singleton] at hhead
  rw [textOf_pieces,
    keyOf_append (hv.not_mem rfl (by simp)) (hv.not_mem rfl (by simp)) hk hhead, hk] at h
  cases h

end

inductive IsPairGrammar (o : Options) : String → Grammar → Prop
  | filter {g : Grammar} (h : FilterGrammar.ofOptions o = .ok g) : IsPairGrammar o o.filterKey g
  | page {g : Grammar} (h : PageGrammar.ofOptions o = .ok g) : IsPairGrammar o o.pageKey g

lemma IsPairGrammar.exists_read {o : Options} {key : String} {g : Grammar}
    (h : IsPairGrammar o key g) (hv : o.IsValid) (hb : o.matchBudget ≠ 0) :
    ∃ r : String → Option GrammarMatch,
      (∀ ps, (∀ s ∈ ps, IsPiece s) → g.scan ("&".intercalate ps) = ps.filterMap r) ∧
      ∀ s, Text.foldsTo key.toList (keyOf s.toList) = false → r s = none := by
  cases h with
  | filter h =>
    refine ⟨_, fun ps hps => FilterPair.scan_intercalate hv h hb hps, fun s hs => ?_⟩
    rw [FilterPair.read?_of_other_key hv hs, Option.map_none]
  | page h =>
    refine ⟨_, fun ps hps => PagePair.scan_intercalate hv h hb hps, fun s hs => ?_⟩
    rw [PagePair.read?_of_other_key hv hs, Option.map_none]

/-- Pieces are matched each for itself, and those of other keys might as well not be there. -/
theorem Grammar.scan_pieces {o : Options} {key : String} {g : Grammar}
    (hv : o.validate = .ok ()) (hg : IsPairGrammar o key g) (hb : o.matchBudget ≠ 0)
    {ps : List String} (h : ∀ s ∈ ps, IsPiece s) :
    g.scan ("&".intercalate ps) = ps.flatMap g.scan ∧
      g.scan ("&".intercalate ps) = g.scan ("&".intercalate
        (ps.filter fun s => Text.foldsTo key.toList (keyOf s.toList))) := by
  obtain ⟨r, hscan, hkey⟩ := hg.exists_read (Options.validate_eq_ok.mp hv) hb
  constructor
  · have hsingle : ∀ s ∈ ps, g.scan s = (r s).toList := by
      intro s hs
      have hone := hscan [s] (by simpa using h s hs)
      rw [String.intercalate_singleton] at hone
      rw [hone, List.filterMap_eq_flatMap_toList, List.flatMap_singleton]
    rw [hscan ps h, List.filterMap_eq_flatMap_toList, List.flatMap_congr hsingle]
  · rw [hscan ps h, hscan _ fun s hs => h s (List.mem_filter.mp hs).1, List.filterMap_filter]
    apply List.filterMap_congr
    intro s hs
    split
    · rfl
    · next hk => exact hkey s (Bool.eq_false_iff.mpr hk)

/-- A sort list, a foreign parameter and an empty piece among pairs of both keys, some of which
have more brackets or equals signs than a pair needs. -/
def mixedPieces : List String :=
  ["sort=-age", "Filter[a][$lt]=1[x]", "", "PAGE[Limit]=5", "filter[b=c]=?d=e", "page[size]=2",
    "filters[f]=1", "page[after]=filter[g]"]

theorem scan_mixedPieces : ∃ f p, Options.standard.validate = .ok () ∧
    FilterGrammar.ofOptions .standard = .ok f ∧ PageGrammar.ofOptions .standard = .ok p ∧
    Options.standard.matchBudget ≠ 0 ∧ (∀ s ∈ mixedPieces, IsPiece s) ∧
    f.scan ("&".intercalate mixedPieces) = mixedPieces.flatMap f.scan ∧
    f.scan ("&".intercalate mixedPieces) =
      f.scan ("&".intercalate ["Filter[a][$lt]=1[x]", "filter[b=c]=?d=e"]) ∧
    p.scan ("&".intercalate mixedPieces) = mixedPieces.flatMap p.scan ∧
    p.scan ("&".intercalate mixedPieces) =
      p.scan ("&".intercalate ["PAGE[Limit]=5", "page[size]=2", "page[after]=filter[g]"]) := by
  have hv : Options.standard.validate = .ok () :=
    Options.validate_eq_ok.mpr ⟨by decide +kernel, by decide⟩
  obtain ⟨f, hf⟩ := FilterPair.exists_ofOptions_standard
  obtain ⟨p, hp⟩ := PagePair.exists_ofOptions_standard
  have hb : Options.standard.matchBudget ≠ 0 := by decide
  have h : ∀ s ∈ mixedPieces, IsPiece s := by decide +kernel
  have hfilter := Grammar.scan_pieces hv (.filter hf) hb h
  have hpage := Grammar.scan_pieces hv (.page hp) hb h
  rw [show mixedPieces.filter _ = ["Filter[a][$lt]=1[x]", "filter[b=c]=?d=e"] by rfl] at hfilter
  rw [show mixedPieces.filter _ =
    ["PAGE[Limit]=5", "page[size]=2", "page[after]=filter[g]"] by rfl] at hpage
  exact ⟨f, p, hv, hf, hp, hb, h, hfilter.1, hfilter.2, hpage.1, hpage.2⟩

end BracketQuery
