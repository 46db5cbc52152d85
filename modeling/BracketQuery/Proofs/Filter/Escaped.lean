import BracketQuery.Proofs.Filter.RoundTrip
import BracketQuery.Proofs.Filter.WellFormed
import BracketQuery.Proofs.Grammar.Scan
import Mathlib.Data.List.TakeWhile

/-! A value that is escaped by itself. The escapes of a query are resolved before it is taken apart,
so that an ampersand ends a value even if it was escaped. -/

namespace BracketQuery

open FilterGrammar

section

variable {o : Options} {p : FilterParser}

lemma FilterParser.captures_eq (hp : ofOptions o = .ok p) (hb : o.matchBudget ≠ 0) (raw : String) :
    p.captures raw =
      (FilterPair.pairsFrom o.filterKey o.groupKeyword true
        (Percent.decode (Grammar.strip raw.toList))).filterMap
        fun q => Capture.ofMatch? o.valueDelimiter q.toMatch := by
  obtain ⟨hv, g, hg, rfl⟩ := ofOptions_eq_ok hp
  rw [captures, FilterPair.scan_eq hv hg hb, List.filterMap_map]
  rfl

lemma Capture.mem_of_mem_values {d : Char} {m : GrammarMatch} {c : Clause} {v : String} {x : Char}
    (h : ofMatch? d m = some (.clause c)) (hv : v ∈ c.values) (hx : x ∈ v.toList) :
    x ∈ ((m.get FilterGrammar.value).getD "").toList := by
  unfold ofMatch? at h
  split at h
  · simp at h
  · simp only [Option.ite_none_left_eq_some, Option.some.injEq, clause.injEq] at h
    obtain ⟨-, rfl⟩ := h
    dsimp only at hv
    split at hv
    · rwa [List.mem_singleton.mp hv] at hx
    · obtain ⟨y, hy, rfl⟩ := List.mem_map.mp hv
      rw [String.toList_ofList] at hx
      exact (Text.exists_mem_splitWhere_iff.mp ⟨y, hy, hx⟩).1

lemma FilterParser.ampersand_not_mem (hp : ofOptions o = .ok p) (hb : o.matchBudget ≠ 0)
    {raw : String} {c : Clause} (hc : .clause c ∈ p.captures raw) {v : String} (hv : v ∈ c.values) :
    '&' ∉ v.toList := by
  rw [captures_eq hp hb] at hc
  obtain ⟨q, hq, hm⟩ := List.mem_filterMap.mp hc
  intro hx
  have hmem := Capture.mem_of_mem_values hm hv hx
  have hget := (FilterPair.get_parts o.filterKey q).2.2.2.2.2.2
  rw [FilterPair.matched_eq_toMatch] at hget
  rw [hget, Option.getD_some] at hmem
  have hcontains := (FilterPair.isReadable_of_mem_pairsFrom hq).value '&' hmem
  revert hcontains
  decide

lemma mem_values_of_assemble {cs : List Capture} {t : Group} (hc : ∀ c ∈ cs, c.IsUsable)
    (h : assemble cs = .ok (some t)) {l : Leaf} (hl : .leaf l ∈ t.children) {v : String}
    (hv : v ∈ l.values.toList) : ∃ c, .clause c ∈ cs ∧ v ∈ c.values := by
  have hn : ∀ c ∈ cs, c.IsNamed := fun c hm => (hc c hm).isNamed
  rcases Assembly.ofCaptures_cases cs with ⟨g, c, d, he⟩ | ha
  · rw [assemble, he] at h
    cases h
  · obtain ⟨t', ht, -, htree⟩ := assemble_exact hn ha
    rw [h] at ht
    obtain rfl := Except.ok.inj ht
    have hplaced : (t.name, Node.leaf l) ∈ t.placed := Node.mem_placedIn.mpr (.inl ⟨rfl, hl⟩)
    obtain ⟨k, -, -, rfl⟩ := ((htree t rfl).leaf t.name l).mp hplaced
    obtain ⟨c, hm, -, hv⟩ := Capture.mem_valuesOf.mp hv
    exact ⟨c, hm, hv⟩

end

namespace FilterParser

def escapedQuery (v : String) : String :=
  "filter[a]=" ++ String.ofList (Percent.encode v.toList)

def single (values : List String) : Group :=
  ⟨⟨rootName, none, .and⟩, [.leaf ⟨"a", some rootName, "a", .equalTo, .ofList values⟩]⟩

lemma toList_decode_escapedQuery (v : String) :
    Percent.decode (Grammar.strip (escapedQuery v).toList) = "filter[a]=".toList ++ v.toList := by
  have hlist : (escapedQuery v).toList = "filter[a]=".toList ++ Percent.encode v.toList := by
    simp [escapedQuery]
  have hblank : ∀ c ∈ (escapedQuery v).toList, Text.isBlank c = false := by
    have hkey : "filter[a]=".toList.all (fun c => !Text.isBlank c) = true := by decide +kernel
    rw [hlist]
    intro c hc
    rcases List.mem_append.mp hc with hc | hc
    · simpa using List.all_eq_true.mp hkey c hc
    · exact Grammar.not_isBlank_of_mem_encode hc
  have hq : (escapedQuery v).toList.head? ≠ some '?' := by
    rw [hlist]
    nofun
  rw [Grammar.strip_of_trim (Text.trim_of_forall hblank) hq, hlist,
    Percent.decode_append_encode (by decide)]

def singlePair (v : List Char) : FilterPair :=
  ⟨none, none, some "a", none, [], none, String.ofList v⟩

lemma ofContents?_single (v : List Char) :
    FilterPair.ofContents? "group" [['a']] v = some (singlePair v) := by
  have hkind : Text.foldsTo "group".toList ['a'] = false := by decide +kernel
  have hname : isName ['a'] = true := by decide +kernel
  have hplain : ∀ y ∈ [['a']], isPlain y = true := by
    intro y hy
    obtain rfl := List.mem_singleton.mp hy
    decide
  exact FilterPair.ofContents?_name (o := none) hkind hname hplain nofun v

lemma pairsFrom_single {v : List Char} (hv : '&' ∉ v) :
    FilterPair.pairsFrom "filter" "group" true ("filter[a]=".toList ++ v) = [singlePair v] := by
  have hkey : Text.foldsTo "filter".toList "filter".toList = true := Text.foldsTo_self _
  exact FilterPair.pairsFrom_eq_singleton hkey (show ∀ x ∈ [['a']], ']' ∉ x by simp) hv
    (ofContents?_single v)

def singleClause (values : List String) : Clause := ⟨none, none, "a", .equalTo, values⟩

lemma ofMatch?_single (v : String) : Capture.ofMatch? ',' (singlePair v.toList).toMatch =
    some (.clause (singleClause (Text.pieces ',' v))) := by
  have hname : (singlePair v.toList).member.bind Capture.nonBlank = some "a" :=
    show Capture.nonBlank "a" = some "a" by decide
  have hpath : ".".intercalate ["a"] = "a" := rfl
  rw [← FilterPair.matched_eq_toMatch "filter",
    Capture.ofMatch?_path ',' "filter" rfl rfl hname nofun nofun hpath (by decide) rfl]
  simp [singlePair, singleClause, Operator.standard]

lemma assemble_single (values : List String) :
    assemble [.clause (singleClause values)] = .ok (some (single values)) :=
  assemble_condition (by decide) .equalTo values

lemma exists_ofOptions_standard : ∃ p, ofOptions .standard = .ok p := by
  obtain ⟨g, hg⟩ := FilterPair.exists_ofOptions_standard
  rw [ofOptions, hg]
  exact ⟨_, rfl⟩

lemma parse_of_pairsFrom {p : FilterParser} {q : FilterPair} {c : Capture} {raw : String}
    (hp : ofOptions .standard = .ok p)
    (hq : FilterPair.pairsFrom "filter" "group" true
      (Percent.decode (Grammar.strip raw.toList)) = [q])
    (hc : Capture.ofMatch? ',' q.toMatch = some c) : p.parse raw = assemble [c] := by
  have hone : p.captures raw = [c] := by
    rw [captures_eq hp (by decide)]
    change (FilterPair.pairsFrom "filter" "group" true _).filterMap
      (fun q => Capture.ofMatch? ',' q.toMatch) = [c]
    rw [hq, List.filterMap_cons, hc, List.filterMap_nil]
  rw [parse, hone]

/-- The condition of an escaped value is on all of it exactly if no ampersand is in it. -/
theorem parse_escapedQuery : ∃ p, ofOptions .standard = .ok p ∧ ∀ v : String,
    p.parse (escapedQuery v) = .ok (some (single (Text.pieces ',' v))) ↔ '&' ∉ v.toList := by
  obtain ⟨p, hp⟩ := exists_ofOptions_standard
  have hb : Options.standard.matchBudget ≠ 0 := by decide
  refine ⟨p, hp, fun v => ⟨fun h hamp => ?_, fun hv => ?_⟩⟩
  · -- the ampersand is in one of the values, but no condition has such a value
    obtain ⟨x, hx, hampx⟩ :=
      (Text.exists_mem_splitWhere_iff (p := (· == ','))).mpr ⟨hamp, by decide⟩
    have hvalue : String.ofList x ∈ (ValueSet.ofList (Text.pieces ',' v)).toList :=
      ValueSet.mem_toList_ofList.mpr (List.mem_map_of_mem hx)
    obtain ⟨c, hm, hxc⟩ :=
      mem_values_of_assemble p.isUsable_of_mem_captures h List.mem_cons_self hvalue
    exact ampersand_not_mem hp hb hm hxc (by simpa using hampx)
  · have hpairs := pairsFrom_single hv
    rw [← toList_decode_escapedQuery] at hpairs
    rw [parse_of_pairsFrom hp hpairs (ofMatch?_single v)]
    exact assemble_single _

theorem parse_escapedAmpersand : ∃ p, ofOptions .standard = .ok p ∧
    p.parse (escapedQuery "1&filter[b]=2") = .ok (some ⟨⟨rootName, none, .and⟩,
      [ .leaf ⟨"a", some rootName, "a", .equalTo, .ofList ["1"]⟩,
        .leaf ⟨"b", some rootName, "b", .equalTo, .ofList ["2"]⟩ ]⟩) ∧
    p.parse (escapedQuery "1&filter[b]=2") ≠
      .ok (some (single (Text.pieces ',' "1&filter[b]=2"))) := by
  obtain ⟨p, hp⟩ := exists_ofOptions_standard
  have hcaptures := captures_eq hp (by decide) (escapedQuery "1&filter[b]=2")
  have hpairs : (FilterPair.pairsFrom Options.standard.filterKey Options.standard.groupKeyword true
      ("filter[a]=".toList ++ "1&filter[b]=2".toList)).filterMap
        (fun q => Capture.ofMatch? Options.standard.valueDelimiter q.toMatch) =
      [.clause ⟨none, none, "a", .equalTo, ["1"]⟩, .clause ⟨none, none, "b", .equalTo, ["2"]⟩] := by
    decide +kernel
  rw [toList_decode_escapedQuery, hpairs] at hcaptures
  refine ⟨p, hp, ?_, ?_⟩
  · rw [parse, hcaptures]
    rfl
  · rw [parse, hcaptures]
    intro h
    have hlength := congrArg (fun t => t.toOption.map fun g => g.map fun t => t.children.length) h
    cases hlength

end FilterParser

end BracketQuery
