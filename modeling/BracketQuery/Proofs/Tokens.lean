import BracketQuery.Proofs.Filter.Escaped
import BracketQuery.Proofs.Page
import BracketQuery.Proofs.Text.Spelling

/-! The words of a grammar against the table in which a captured word is looked up. The grammar
takes a long s for an s, the table does not. -/

namespace BracketQuery

section

variable {α : Type} {words : List String} {table : List (String × α)} {t : String}

/-- A token is in the table exactly if it has no long s, and stands for the word it spells. -/
structure IsLookedUp (words : List String) (ofToken? : String → Option α) (t : String) : Prop where
  known : (ofToken? t).isSome = true ↔ 'ſ' ∉ t.toList
  meaning : 'ſ' ∉ t.toList →
    ∃ w ∈ words, Text.foldsTo w.toList t.toList = true ∧ ofToken? t = ofToken? w

/-- All words of the grammar are in the table, and the words in it are of letters from a to z. -/
structure IsTableOf (words : List String) (table : List (String × α)) : Prop where
  letters : ∀ p ∈ table, p.1.toList.all Char.isLower = true
  complete : ∀ w ∈ words, ∃ p ∈ table, p.1 = w

lemma lookUp_of_longS (h : IsTableOf words table) (ht : 'ſ' ∈ t.toList) :
    Text.lookUp table t = none := by
  rw [Text.lookUp, Option.map_eq_none_iff, List.find?_eq_none]
  intro p hp
  rw [Text.not_spells_of_longS ht (Text.longS_not_mem (List.all_eq_true.mp (h.letters p hp)))]
  exact Bool.false_ne_true

lemma lookUp_of_spells {p : String × α} (hp : p ∈ table) (ht : Text.spells t p.1 = true) :
    (Text.lookUp table t).isSome = true := by
  rw [Text.lookUp, Option.isSome_map, List.find?_isSome]
  exact ⟨p, hp, ht⟩

lemma IsTableOf.isLookedUp (h : IsTableOf words table)
    (ht : FilterGrammar.isToken words t.toList = true) : IsLookedUp words (Text.lookUp table) t := by
  obtain ⟨w, hw, hfold⟩ := List.any_eq_true.mp ht
  obtain ⟨p, hp, rfl⟩ := h.complete w hw
  have hlower := List.all_eq_true.mp (h.letters p hp)
  have hspelled (hs : 'ſ' ∉ t.toList) : t.toList.map Text.lowerChar = p.1.toList :=
    Text.map_lowerChar_of_foldsTo hlower hfold hs
  refine ⟨⟨fun hsome hs => ?_, fun hs => ?_⟩, fun hs => ⟨p.1, hw, hfold, ?_⟩⟩
  · rw [lookUp_of_longS h hs] at hsome
    exact Bool.false_ne_true hsome
  · exact lookUp_of_spells hp (beq_iff_eq.mpr (hspelled hs))
  · have hself := Text.map_lowerChar_of_foldsTo hlower (Text.foldsTo_self _)
      (Text.longS_not_mem hlower)
    exact Text.lookUp_congr ((hspelled hs).trans hself.symm) table

end

lemma isTableOf_operatorTokens : IsTableOf FilterGrammar.operatorTokens Operator.tokens :=
  ⟨by decide, by decide⟩

lemma isTableOf_conjunctionTokens : IsTableOf FilterGrammar.conjunctionTokens Conjunction.tokens :=
  ⟨by decide, by decide⟩

lemma isTableOf_properties : IsTableOf PageGrammar.properties PageProperty.tokens :=
  ⟨by decide, by decide⟩

lemma longS_not_mem_of_isConjunction {x : List Char}
    (h : FilterGrammar.isToken FilterGrammar.conjunctionTokens x = true) : 'ſ' ∉ x := by
  have hwords : ∀ w ∈ FilterGrammar.conjunctionTokens,
      w.toList.any (fun c => (CharSet.single c).foldCase.contains 'ſ') = false := by
    decide +kernel
  obtain ⟨w, hw, hfold⟩ := List.any_eq_true.mp h
  intro hs
  obtain ⟨c, hc, hcontains⟩ := Text.exists_mem_of_foldsTo hfold hs
  exact List.any_eq_false.mp (hwords w hw) c hc hcontains

section

variable {o : Options} {g : Grammar} {raw : String} {m : GrammarMatch}

lemma Grammar.budget_ne_zero_of_mem_scan (hm : m ∈ g.scan raw) : g.budget ≠ 0 := by
  intro hb
  rw [Grammar.scan] at hm
  simp [hb] at hm

lemma FilterPair.exists_of_mem_scan (hv : o.IsValid) (hg : FilterGrammar.ofOptions o = .ok g)
    (hm : m ∈ g.scan raw) : ∃ p : FilterPair, p.IsReadable o.groupKeyword ∧ m = p.toMatch := by
  have hb : o.matchBudget ≠ 0 := by
    obtain rfl := Grammar.eq_of_ofPattern hg
    exact Grammar.budget_ne_zero_of_mem_scan hm
  rw [FilterPair.scan_eq hv hg hb] at hm
  obtain ⟨p, hp, rfl⟩ := List.mem_map.mp hm
  exact ⟨p, FilterPair.isReadable_of_mem_pairsFrom hp, rfl⟩

lemma PagePair.exists_of_mem_scan (hv : o.IsValid) (hg : PageGrammar.ofOptions o = .ok g)
    (hm : m ∈ g.scan raw) : ∃ p : PagePair,
      FilterGrammar.isToken PageGrammar.properties p.property.toList = true ∧ m = p.toMatch := by
  have hb : o.matchBudget ≠ 0 := by
    obtain rfl := Grammar.eq_of_ofPattern hg
    exact Grammar.budget_ne_zero_of_mem_scan hm
  rw [PagePair.scan_eq hv hg hb] at hm
  obtain ⟨x, -, hx⟩ := List.mem_filterMap.mp hm
  obtain ⟨p, hp, rfl⟩ := Option.map_eq_some_iff.mp hx
  obtain ⟨-, -, -, htoken⟩ := PagePair.read?_eq_some.mp hp
  exact ⟨p, htoken, rfl⟩

/-- The tokens that the grammars capture, whatever the query. -/
theorem isLookedUp_of_mem_scan (hv : o.validate = .ok ()) (raw : String) :
    (∀ g, FilterGrammar.ofOptions o = .ok g → ∀ m ∈ g.scan raw,
      (∀ t ∈ m.get FilterGrammar.operator,
        IsLookedUp FilterGrammar.operatorTokens Operator.ofToken? t) ∧
      ∀ t ∈ m.get FilterGrammar.conjunction,
        (Conjunction.ofToken? t).isSome = true ∧
          IsLookedUp FilterGrammar.conjunctionTokens Conjunction.ofToken? t) ∧
    ∀ g, PageGrammar.ofOptions o = .ok g → ∀ m ∈ g.scan raw,
      ∃ t, m.get PageGrammar.property = some t ∧
        IsLookedUp PageGrammar.properties PageProperty.ofToken? t := by
  have hvalid := Options.validate_eq_ok.mp hv
  constructor
  · intro g hg m hm
    obtain ⟨p, hp, rfl⟩ := FilterPair.exists_of_mem_scan hvalid hg hm
    obtain ⟨-, hconjunction, -, -, -, hoperator, -⟩ := FilterPair.get_parts o.filterKey p
    rw [FilterPair.matched_eq_toMatch] at hconjunction hoperator
    rw [hconjunction, hoperator]
    refine ⟨fun t ht => isTableOf_operatorTokens.isLookedUp (hp.operator t ht), fun t ht => ?_⟩
    have hlooked := isTableOf_conjunctionTokens.isLookedUp (hp.conjunction t ht)
    exact ⟨hlooked.known.mpr (longS_not_mem_of_isConjunction (hp.conjunction t ht)), hlooked⟩
  · intro g hg m hm
    obtain ⟨p, hp, rfl⟩ := PagePair.exists_of_mem_scan hvalid hg hm
    exact ⟨p.property, (PagePair.get_toMatch p).1, isTableOf_properties.isLookedUp hp⟩

def mixedTokens : String := "filter[$oR][b][$NotNuLL]=&page[CurSor]=q&filter[a][$ſtartswith]=x"

theorem isLookedUp_mixedTokens :
    ∃ f g, Options.standard.validate = .ok () ∧ FilterGrammar.ofOptions .standard = .ok f ∧
      PageGrammar.ofOptions .standard = .ok g ∧
      f.scan mixedTokens =
        [ ⟨[("value", ""), ("operator", "NotNuLL"), ("path", ""), ("memberOf", "b"),
            ("conjunction", "oR")]⟩,
          ⟨[("value", "x"), ("operator", "ſtartswith"), ("path", ""), ("memberOf", "a")]⟩ ] ∧
      g.scan mixedTokens = [⟨[("value", "q"), ("property", "CurSor")]⟩] ∧
      IsLookedUp FilterGrammar.operatorTokens Operator.ofToken? "NotNuLL" ∧
      IsLookedUp FilterGrammar.operatorTokens Operator.ofToken? "ſtartswith" ∧
      IsLookedUp FilterGrammar.conjunctionTokens Conjunction.ofToken? "oR" ∧
      IsLookedUp PageGrammar.properties PageProperty.ofToken? "CurSor" := by
  have hv : Options.standard.validate = .ok () :=
    Options.validate_eq_ok.mpr ⟨by decide +kernel, by decide⟩
  have hb : Options.standard.matchBudget ≠ 0 := by decide
  obtain ⟨f, hf⟩ := FilterPair.exists_ofOptions_standard
  obtain ⟨g, hg⟩ := PagePair.exists_ofOptions_standard
  have hfilter := FilterPair.scan_eq (Options.validate_eq_ok.mp hv) hf hb mixedTokens
  have hpage := PagePair.scan_eq (Options.validate_eq_ok.mp hv) hg hb mixedTokens
  obtain ⟨hlookedFilter, hlookedPage⟩ := isLookedUp_of_mem_scan hv mixedTokens
  have hfirst := hlookedFilter f hf ⟨[("value", ""), ("operator", "NotNuLL"), ("path", ""),
    ("memberOf", "b"), ("conjunction", "oR")]⟩ (by rw [hfilter]; decide +kernel)
  have hsecond := hlookedFilter f hf ⟨[("value", "x"), ("operator", "ſtartswith"), ("path", ""),
    ("memberOf", "a")]⟩ (by rw [hfilter]; decide +kernel)
  obtain ⟨t, ht, hproperty⟩ := hlookedPage g hg ⟨[("value", "q"), ("property", "CurSor")]⟩
    (by rw [hpage]; decide +kernel)
  obtain rfl : "CurSor" = t := Option.some.inj ht
  refine ⟨f, g, hv, hf, hg, ?_, ?_, hfirst.1 _ rfl, hsecond.1 _ rfl, (hfirst.2 _ rfl).2, hproperty⟩
  · rw [hfilter]
    decide +kernel
  · rw [hpage]
    decide +kernel

/--
An operator with a long s is captured, but the condition is one of equality, and a page property
with a long s is captured, but has no effect.
-/
theorem parse_longS : ∃ (p : FilterParser) (q : PageParser),
    FilterParser.ofOptions .standard = .ok p ∧ PageParser.ofOptions .standard = .ok q ∧
    (∃ m ∈ p.grammar.scan "filter[a][$ſtartswith]=x",
      m.get FilterGrammar.operator = some "ſtartswith" ∧ Operator.ofToken? "ſtartswith" = none) ∧
    p.parse "filter[a][$ſtartswith]=x" = .ok (some (FilterParser.single ["x"])) ∧
    (∃ m ∈ q.grammar.scan "page[offſet]=5",
      m.get PageGrammar.property = some "offſet" ∧ PageProperty.ofToken? "offſet" = none) ∧
    q.parse "page[offſet]=5" = q.parse "" := by
  have hv : Options.standard.IsValid := ⟨by decide +kernel, by decide⟩
  have hb : Options.standard.matchBudget ≠ 0 := by decide
  obtain ⟨g, hg⟩ := PagePair.exists_ofOptions_standard
  obtain ⟨p, hp⟩ := FilterParser.exists_ofOptions_standard
  obtain ⟨q, hq⟩ := PageParser.exists_ofOptions hv hg
  have hcaptures := FilterParser.captures_eq hp hb "filter[a][$ſtartswith]=x"
  have hclause : (FilterPair.pairsFrom Options.standard.filterKey Options.standard.groupKeyword true
      (Percent.decode (Grammar.strip "filter[a][$ſtartswith]=x".toList))).filterMap
        (fun r => Capture.ofMatch? Options.standard.valueDelimiter r.toMatch) =
      [.clause (FilterParser.singleClause ["x"])] := by
    decide +kernel
  have hoperator : ⟨[("value", "x"), ("operator", "ſtartswith"), ("path", ""), ("memberOf", "a")]⟩ ∈
      p.grammar.scan "filter[a][$ſtartswith]=x" := by
    obtain ⟨hvalid, f, hf, rfl⟩ := FilterParser.ofOptions_eq_ok hp
    rw [FilterPair.scan_eq hvalid hf hb]
    decide +kernel
  have hpage (raw : String) := PagePair.scan_eq hv (PageParser.ofOptions_eq_ok hq).2.1 hb raw
  have hscan : q.grammar.scan "page[offſet]=5" =
      [(⟨"offſet", "5"⟩ : PagePair)].map PagePair.toMatch := by
    rw [hpage]
    decide +kernel
  have hempty : q.grammar.scan "" = [].map PagePair.toMatch := by
    rw [hpage]
    decide +kernel
  have hproperty : PagePair.toMatch ⟨"offſet", "5"⟩ ∈ q.grammar.scan "page[offſet]=5" := by
    rw [hscan]
    exact List.mem_singleton_self _
  refine ⟨p, q, hp, hq, ⟨_, hoperator, rfl, by decide⟩, ?_, ⟨_, hproperty, rfl, by decide⟩, ?_⟩
  · rw [FilterParser.parse, hcaptures, hclause]
    exact FilterParser.assemble_single ["x"]
  · rw [PageParser.parse_eq hscan, PageParser.parse_eq hempty]
    rfl

end

end BracketQuery
