import BracketQuery.Page
import BracketQuery.Proofs.Grammar.Page
import BracketQuery.Proofs.Ordered
import BracketQuery.Proofs.Text.Numeral
import BracketQuery.Proofs.Text.Spelling
import Mathlib.Data.List.Basic

/-! The pairs of a query set the properties of its window one after the other. A window that is
written as a query is read as it was, whatever pairs come before its own. -/

namespace BracketQuery

namespace PageProperty

def IsSpelled (k : PageProperty) (t : String) : Prop :=
  ∃ w ∈ tokens, w.2 = k ∧ Text.eqIgnoreAsciiCase w.1 t = true

instance (k : PageProperty) (t : String) : Decidable (k.IsSpelled t) :=
  inferInstanceAs (Decidable (∃ w ∈ tokens, _))

variable {k : PageProperty} {t : String}

lemma IsSpelled.ofToken? (h : k.IsSpelled t) : ofToken? t = some k := by
  have hlower : ∀ w ∈ tokens, w.1.toList.all Char.isLower = true := by decide
  have htable : ∀ w ∈ tokens, w.1.toList.map Text.lowerChar = w.1.toList ∧
      PageProperty.ofToken? w.1 = some w.2 := by decide
  obtain ⟨w, hw, rfl, ht⟩ := h
  obtain ⟨hself, hfind⟩ := htable w hw
  have hmap := Text.map_lowerChar_of_eqIgnoreAsciiCase (List.all_eq_true.mp (hlower w hw)) ht
  exact (Text.lookUp_congr (hmap.trans hself.symm) tokens).trans hfind

lemma IsSpelled.isToken (h : k.IsSpelled t) :
    FilterGrammar.isToken PageGrammar.properties t.toList = true := by
  have hwords : ∀ w ∈ tokens, w.1 ∈ PageGrammar.properties := by decide
  obtain ⟨w, hw, -, ht⟩ := h
  exact List.any_eq_true.mpr ⟨w.1, hwords w hw, Text.foldsTo_of_map_toLower (beq_iff_eq.mp ht)⟩

end PageProperty

namespace PagePair

def text (key : String) (q : PagePair) : String := key ++ "[" ++ q.property ++ "]=" ++ q.value

def query (key : String) (qs : List PagePair) : String :=
  String.ofList (Percent.encode ("&".intercalate (qs.map (text key))).toList)

variable {key : String} {q : PagePair}

lemma get_toMatch (q : PagePair) : q.toMatch.get PageGrammar.property = some q.property ∧
    q.toMatch.get PageGrammar.value = some q.value := by
  simp [toMatch, GrammarMatch.get, List.lookup_cons, PageGrammar.value, PageGrammar.property]

lemma toList_text (key : String) (q : PagePair) :
    (q.text key).toList = textOf (q.pieces key.toList) := by
  simp [text, textOf_pieces, FilterGrammar.enclosed]

lemma read?_text (h : FilterGrammar.isToken PageGrammar.properties q.property.toList = true) :
    read? key (q.text key).toList = some q :=
  read?_eq_some.mpr ⟨key.toList, toList_text key q, Text.foldsTo_self _, h⟩

lemma ampersand_not_mem_text (hk : '&' ∉ key.toList) (hv : '&' ∉ q.value.toList)
    (h : FilterGrammar.isToken PageGrammar.properties q.property.toList = true) :
    '&' ∉ (q.text key).toList := by
  have hp := FilterGrammar.not_mem_of_isToken FilterGrammar.isUncased_ampersand
    PageGrammar.ampersand_not_mem_properties h
  simp [text, hk, hp, hv]

variable {o : Options} {g : Grammar}

lemma scan_query (hv : o.IsValid) (hg : PageGrammar.ofOptions o = .ok g) (hb : o.matchBudget ≠ 0)
    (front : List PagePair) {qs : List PagePair} (hne : qs ≠ [])
    (hq : ∀ q ∈ qs, FilterGrammar.isToken PageGrammar.properties q.property.toList = true ∧
      '&' ∉ q.value.toList) :
    ∃ ps : List PagePair, g.scan (query o.pageKey (front ++ qs)) = (ps ++ qs).map toMatch := by
  have hkey : '&' ∉ o.pageKey.toList := hv.not_mem rfl (by simp)
  have hamp : ∀ x ∈ (qs.map (text o.pageKey)).map String.toList, '&' ∉ x :=
    List.forall_mem_map.mpr <| List.forall_mem_map.mpr fun q hm =>
      ampersand_not_mem_text hkey (hq q hm).2 (hq q hm).1
  obtain ⟨zs, hz⟩ := Text.exists_splitOn_intercalate ((front.map (text o.pageKey)).map String.toList)
    (by simpa using hne) hamp
  have hread : ((qs.map (text o.pageKey)).map String.toList).filterMap (read? o.pageKey) = qs := by
    have hone : ∀ q ∈ qs, (read? o.pageKey ∘ String.toList ∘ text o.pageKey) q = some q :=
      fun q hm => read?_text (hq q hm).1
    rw [List.map_map, List.filterMap_map, List.filterMap_congr hone, List.filterMap_some]
  refine ⟨zs.filterMap (read? o.pageKey), ?_⟩
  rw [scan_eq hv hg hb, query, String.toList_ofList, Grammar.strip_encode, Percent.decode_encode,
    String.toList_intercalate, List.map_append, List.map_append]
  change (Text.splitOn '&' (['&'].intercalate _)).filterMap _ = _
  rw [hz, ← List.map_filterMap, List.filterMap_append, hread]

end PagePair

namespace PageParser

variable {o : Options} {p : PageParser}

lemma ofOptions_eq_ok (h : ofOptions o = .ok p) :
    o.IsValid ∧ PageGrammar.ofOptions o = .ok p.grammar ∧ p.maxLimit = max o.maxPageLimit 1 := by
  obtain ⟨_, hv, h⟩ := bind_eq_ok.mp h
  obtain ⟨g, hg, h⟩ := bind_eq_ok.mp h
  cases h
  exact ⟨Options.validate_eq_ok.mp hv, hg, rfl⟩

lemma exists_ofOptions {g : Grammar} (hv : o.IsValid) (hg : PageGrammar.ofOptions o = .ok g) :
    ∃ p, ofOptions o = .ok p := by
  rw [ofOptions, Options.validate_eq_ok.mpr hv, hg]
  exact ⟨_, rfl⟩

def setPair (p : PageParser) (page : Page) (k : PageProperty) (q : PagePair) : Page :=
  p.set page k q.value

def step (p : PageParser) : Page → PagePair → Page :=
  setKeyed p.setPair fun q => PageProperty.ofToken? q.property

lemma setPair_setPair (p : PageParser) (page : Page) (k : PageProperty) (q r : PagePair) :
    p.setPair (p.setPair page k q) k r = p.setPair page k r := by
  cases k <;> rfl

lemma setPair_comm (p : PageParser) (page : Page) (k l : PageProperty) (q r : PagePair)
    (h : k ≠ l) : p.setPair (p.setPair page k q) l r = p.setPair (p.setPair page l r) k q := by
  cases k <;> cases l <;> simp only [setPair, set] <;> exact absurd rfl h

lemma parse_eq {raw : String} {qs : List PagePair}
    (h : p.grammar.scan raw = qs.map PagePair.toMatch) :
    p.parse raw = qs.foldl p.step (.withLimit p.maxLimit) := by
  have hproperty : (fun q : PagePair => propertyOf q.toMatch) =
      fun q => PageProperty.ofToken? q.property := by
    funext q
    rw [propertyOf, (PagePair.get_toMatch q).1, Option.bind_some]
  rw [parse, h, groupBy_map, List.foldl_map, hproperty]
  refine Eq.trans ?_ (foldl_setLast_groupBy p.setPair_comm p.setPair_setPair _ _ _)
  congr 1
  funext page g
  rw [setLast, List.getLast?_map, Option.bind_map]
  cases g.2.getLast? with
  | none => rfl
  | some q =>
    rw [Option.bind_some, Function.comp_apply, (PagePair.get_toMatch q).2]
    rfl

end PageParser

namespace Page

def valueOf (page : Page) : PageProperty → String
  | .after => page.after.getD ""
  | .before => page.before.getD ""
  | .offset => Text.decimal page.offset.toNat
  | .limit => Text.decimal page.limit.toNat

def pairs (page : Page) (spelling : PageProperty → String) : List PagePair :=
  [PageProperty.after, .before, .offset, .limit].map fun k => ⟨spelling k, page.valueOf k⟩

def IsCursor (s : String) : Prop := s ≠ "" ∧ Text.trimmed s = s ∧ '&' ∉ s.toList

instance : DecidablePred IsCursor := fun _ => inferInstanceAs (Decidable (_ ∧ _))

structure IsWritable (o : Options) (page : Page) : Prop where
  after : ∀ s ∈ page.after, IsCursor s
  before : ∀ s ∈ page.before, IsCursor s
  one_le : 1 ≤ page.limit
  limit_le : page.limit ≤ max o.maxPageLimit 1

lemma cursor?_getD {x : Option String} (h : ∀ s ∈ x, IsCursor s) :
    PageParser.cursor? (x.getD "") = x := by
  cases x with
  | none => decide
  | some s =>
    obtain ⟨hne, htrim, -⟩ := h s rfl
    simp [PageParser.cursor?, htrim, hne]

lemma ampersand_not_mem_getD {x : Option String} (h : ∀ s ∈ x, IsCursor s) :
    '&' ∉ (x.getD "").toList := by
  cases x with
  | none => simp
  | some s => exact (h s rfl).2.2

lemma ampersand_not_mem_decimal (n : Nat) : '&' ∉ (Text.decimal n).toList := by
  intro h
  have hdigit := Text.isDigit_of_mem_decimal h
  cases hdigit

variable {o : Options} {p : PageParser} {page : Page} {spelling : PageProperty → String}

lemma IsWritable.ampersand_not_mem (hw : page.IsWritable o) (k : PageProperty) :
    '&' ∉ (page.valueOf k).toList := by
  cases k with
  | after => exact ampersand_not_mem_getD hw.after
  | before => exact ampersand_not_mem_getD hw.before
  | offset => exact ampersand_not_mem_decimal _
  | limit => exact ampersand_not_mem_decimal _

lemma foldl_pairs (hw : page.IsWritable o) (hs : ∀ k : PageProperty, k.IsSpelled (spelling k))
    (hp : p.maxLimit = max o.maxPageLimit 1) (start : Page) :
    (page.pairs spelling).foldl p.step start = page := by
  have hoffset : PageParser.offsetOf (Text.decimal page.offset.toNat) = page.offset := by
    rw [PageParser.offsetOf, Text.trimmed_decimal, Text.readWord32?_decimal, Option.getD_some]
  have hlimit : p.limitOf (Text.decimal page.limit.toNat) = page.limit := by
    have hle : page.limit ≤ p.maxLimit := hp ▸ hw.limit_le
    rw [PageParser.limitOf, Text.trimmed_decimal, Text.readWord32?_decimal]
    simp [hw.one_le, hle]
  simp only [pairs, List.map_cons, List.map_nil, List.foldl_cons, List.foldl_nil,
    PageParser.step, setKeyed, (hs _).ofToken?, PageParser.setPair, PageParser.set, valueOf,
    cursor?_getD hw.after, cursor?_getD hw.before, hoffset, hlimit]

lemma foldl_perm {qs : List PagePair} (hs : ∀ k : PageProperty, k.IsSpelled (spelling k))
    (hq : qs.Perm (page.pairs spelling)) (start : Page) :
    qs.foldl p.step start = (page.pairs spelling).foldl p.step start := by
  have hmem : ∀ q ∈ qs, ∃ k, q = ⟨spelling k, page.valueOf k⟩ := by
    intro q hm
    obtain ⟨k, -, rfl⟩ := List.mem_map.mp (hq.mem_iff.mp hm)
    exact ⟨k, rfl⟩
  refine hq.foldl_eq' (fun q hm r hr page => ?_) start
  obtain ⟨k, rfl⟩ := hmem q hm
  obtain ⟨l, rfl⟩ := hmem r hr
  by_cases hkl : k = l
  · rw [hkl]
  · simp only [PageParser.step, setKeyed, (hs _).ofToken?]
    exact p.setPair_comm page _ _ _ _ hkl

end Page

namespace PageParser

variable {o : Options} {p : PageParser} {page : Page}

/--
A window comes back from its query as it was: its four properties are spelled in any case and come
in any order, and in front of them there may be other pairs of any kind.
-/
theorem parse_written (hp : ofOptions o = .ok p) (hb : o.matchBudget ≠ 0) (hw : page.IsWritable o)
    {spelling : PageProperty → String} (hs : ∀ k : PageProperty, k.IsSpelled (spelling k))
    {qs : List PagePair} (hq : qs.Perm (page.pairs spelling)) (front : List PagePair) :
    p.parse (PagePair.query o.pageKey (front ++ qs)) = page := by
  obtain ⟨hv, hg, hmax⟩ := ofOptions_eq_ok hp
  have hread : ∀ q ∈ qs, FilterGrammar.isToken PageGrammar.properties q.property.toList = true ∧
      '&' ∉ q.value.toList := by
    intro q hm
    obtain ⟨k, -, rfl⟩ := List.mem_map.mp (hq.mem_iff.mp hm)
    exact ⟨(hs k).isToken, hw.ampersand_not_mem k⟩
  have hne : qs ≠ [] := by
    rintro rfl
    exact List.cons_ne_nil _ _ hq.nil_eq.symm
  obtain ⟨ps, hscan⟩ := PagePair.scan_query hv hg hb front hne hread
  rw [parse_eq hscan, List.foldl_append, Page.foldl_perm hs hq, Page.foldl_pairs hw hs hmax]

def fifty : Options := { Options.standard with pageKey := "p.g e*", maxPageLimit := 50 }

def farPage : Page := ⟨some "a=b ü", none, Options.largestLimit, 50⟩

def mixedCase : PageProperty → String
  | .after => "CuRSor"
  | .before => "BEFORE"
  | .offset => "offset"
  | .limit => "liMit"

def earlierPairs : List PagePair := [⟨"after", "z"⟩, ⟨"Limit", "7"⟩, ⟨"first", "1&2"⟩]

theorem parse_written_farPage :
    ∃ p, ofOptions fifty = .ok p ∧ fifty.matchBudget ≠ 0 ∧ farPage.IsWritable fifty ∧
      (∀ k : PageProperty, k.IsSpelled (mixedCase k)) ∧
      (farPage.pairs mixedCase).reverse.Perm (farPage.pairs mixedCase) ∧
      p.parse (PagePair.query fifty.pageKey
        (earlierPairs ++ (farPage.pairs mixedCase).reverse)) = farPage := by
  have hfits : (PageGrammar.pattern fifty).fits = true := by decide +kernel
  have hv : fifty.IsValid := ⟨by decide +kernel, by decide⟩
  obtain ⟨g, hg⟩ : ∃ g, PageGrammar.ofOptions fifty = .ok g := Grammar.exists_ofPattern hfits _ _
  obtain ⟨p, hp⟩ := exists_ofOptions hv hg
  have hb : fifty.matchBudget ≠ 0 := by decide
  have hw : farPage.IsWritable fifty := ⟨by decide, by decide, by decide, by decide⟩
  have hs (k : PageProperty) : k.IsSpelled (mixedCase k) := by
    cases k <;> decide
  have hq := List.reverse_perm (farPage.pairs mixedCase)
  exact ⟨p, hp, hb, hw, hs, hq, parse_written hp hb hw hs hq earlierPairs⟩

end PageParser

end BracketQuery
