import BracketQuery.Proofs.Filter.Escaped

/-! Paths of conditions. A path whose segments have brackets of their own is the same as one whose
segments are joined by dots. -/

namespace BracketQuery

open FilterGrammar

/-- The segments of a path, with nothing in them that means something else in a query. -/
structure PathSegments where
  first : String
  rest : List String
  start : ∃ c ∈ first.toList.head?, c.isAlpha = true ∨ c = '_'
  keyword : Text.foldsTo "group".toList first.toList = false
  trimmed : ∀ x ∈ first :: rest, x ≠ "" ∧ Text.trimmed x = x
  plain : ∀ x ∈ first :: rest, ∀ c ∈ x.toList, c ≠ '[' ∧ c ≠ ']' ∧ c ≠ '$' ∧ c ≠ '&' ∧ c ≠ '%'
  index : ∀ x ∈ rest.head?, isIndex x.toList = true → rest.length ≤ 1

def conditionQuery (segments : List String) (token : Option String) (value : String) : String :=
  "filter" ++ String.join (segments.map fun x => "[" ++ x ++ "]") ++
    (token.elim "" fun t => "[$" ++ t ++ "]") ++ "=" ++ value

def Operator.stated (token : Option String) : Operator :=
  (token.bind ofToken?).getD standard

namespace PathSegments

variable (s : PathSegments)

def all : List String := s.first :: s.rest

def path : String := ".".intercalate s.all

variable {s} {x : String} {c : Char}

lemma exists_toList_first :
    ∃ c r, s.first.toList = c :: r ∧ (c.isAlpha = true ∨ c = '_') := by
  obtain ⟨c, hc, ha⟩ := s.start
  obtain ⟨r, hr⟩ := List.head?_eq_some_iff.mp hc
  exact ⟨c, r, hr, ha⟩

lemma isName_first : isName s.first.toList = true := by
  obtain ⟨c, r, hr, hc⟩ := s.exists_toList_first
  rw [hr, isName_cons]
  exact contains_nameStart_of_isAlpha hc

lemma isPlain_of_mem (hx : x ∈ s.all) : isPlain x.toList = true := by
  refine isPlain_iff.mpr ⟨fun h => (s.trimmed x hx).1 (String.toList_inj.mp h), fun c hc => ?_⟩
  obtain ⟨hl, hr, hd, -⟩ := s.plain x hx c hc
  exact contains_segmentChars hl hr hd

lemma nonBlank_of_mem (hx : x ∈ s.all) : Capture.nonBlank x = some x := by
  obtain ⟨hne, ht⟩ := s.trimmed x hx
  rw [Capture.nonBlank, ht]
  exact if_neg hne

/-! ### The path as one segment -/

lemma toList_path : s.path.toList = ['.'].intercalate (s.all.map String.toList) :=
  String.toList_intercalate

lemma exists_toList_path : ∃ r, s.path.toList = s.first.toList ++ r := by
  rw [toList_path, all, List.map_cons]
  cases s.rest with
  | nil => exact ⟨[], by simp⟩
  | cons y ys => exact ⟨_, by rw [List.map_cons, List.intercalate_cons_cons, List.append_assoc]⟩

lemma start_path : ∃ c ∈ s.path.toList.head?, c.isAlpha = true ∨ c = '_' := by
  obtain ⟨c, r, hr, hc⟩ := s.exists_toList_first
  obtain ⟨q, hq⟩ := s.exists_toList_path
  exact ⟨c, by rw [hq, hr]; rfl, hc⟩

lemma keyword_path : Text.foldsTo "group".toList s.path.toList = false := by
  rw [toList_path, all, List.map_cons]
  cases s.rest with
  | nil => simpa using s.keyword
  | cons y ys =>
    rw [Bool.eq_false_iff]
    intro h
    have hdot := Text.not_mem_of_foldsTo (d := '.') (by decide +kernel) h (by decide)
    simp at hdot

lemma trimmed_path : Text.trimmed s.path = s.path := by
  have hblank (x : List Char) (hx : x ∈ s.all.map String.toList) :
      (∀ c ∈ x.head?, Text.isBlank c = false) ∧ ∀ c ∈ x.getLast?, Text.isBlank c = false := by
    obtain ⟨y, hy, rfl⟩ := List.mem_map.mp hx
    exact Text.not_isBlank_of_trim (Text.trimmed_eq_self_iff.mp (s.trimmed y hy).2)
  rw [Text.trimmed_eq_self_iff, toList_path]
  apply Text.trim_eq_self
  · intro c hc
    rcases Text.mem_head?_intercalate hc with rfl | ⟨x, hx, hc⟩
    · rfl
    · exact (hblank x hx).1 c hc
  · intro c hc
    rcases Text.mem_getLast?_intercalate hc with rfl | ⟨x, hx, hc⟩
    · rfl
    · exact (hblank x hx).2 c hc

lemma plain_path (hc : c ∈ s.path.toList) :
    c ≠ '[' ∧ c ≠ ']' ∧ c ≠ '$' ∧ c ≠ '&' ∧ c ≠ '%' := by
  rw [toList_path] at hc
  rcases Text.mem_intercalate hc with rfl | ⟨x, hx, hc⟩
  · decide
  · obtain ⟨y, hy, rfl⟩ := List.mem_map.mp hx
    exact s.plain y hy c hc

lemma pieces_path : (Text.pieces '.' s.path).all Text.isBlankString = false := by
  obtain ⟨c, hc, ha⟩ := s.start_path
  have hb := bounds_of_nameStart ha
  refine Text.any_piece_not_blank (List.mem_of_mem_head? hc)
    (Text.isBlank_eq_false (by omega) (by omega)) ?_
  rintro rfl
  revert hb
  decide

lemma not_isBlankString_path : Text.isBlankString s.path = false := by
  obtain ⟨x, hx, hb⟩ := List.all_eq_false.mp s.pieces_path
  exact Text.not_isBlankString_of_piece hx (by simpa using hb)

def joined (s : PathSegments) : PathSegments where
  first := s.path
  rest := []
  start := s.start_path
  keyword := s.keyword_path
  trimmed := by
    intro x hx
    obtain rfl := List.mem_singleton.mp hx
    refine ⟨fun h => ?_, s.trimmed_path⟩
    obtain ⟨c, hc, -⟩ := s.start_path
    rw [h] at hc
    cases hc
  plain := by
    intro x hx c hc
    obtain rfl := List.mem_singleton.mp hx
    exact plain_path hc
  index := nofun

lemma path_joined : s.joined.path = s.path := String.intercalate_singleton

/-! ### The pair of a condition -/

def contents (s : PathSegments) (token : Option String) : List (List Char) :=
  s.all.map String.toList ++ (token.map fun t => '$' :: t.toList).toList

lemma toList_conditionQuery (s : PathSegments) (token : Option String) (v : String) :
    (conditionQuery s.all token v).toList =
      "filter".toList ++ ((s.contents token).flatMap enclosed ++ '=' :: v.toList) := by
  have hsegments : (String.join (s.all.map fun x => "[" ++ x ++ "]")).toList =
      (s.all.map String.toList).flatMap enclosed := by
    simp [String.toList_join, List.flatMap_map, enclosed]
  have hoperator : (token.elim "" fun t => "[$" ++ t ++ "]").toList =
      (token.map fun t => '$' :: t.toList).toList.flatMap enclosed := by
    cases token <;> simp [enclosed]
  simp [conditionQuery, contents, hsegments, hoperator]

def pair (s : PathSegments) (token : Option String) (v : List Char) : FilterPair :=
  let next := takeIf (isIndex ∘ String.toList) s.rest
  ⟨none, none, some s.first, next.1, next.2, token, String.ofList v⟩

section

variable {token : Option String} (ht : ∀ t ∈ token, isToken operatorTokens t.toList = true)

include ht

lemma not_mem_contents {d : Char} (hd : CaseRun.isUncased d) (hne : d ≠ '$')
    (hw : ∀ w ∈ operatorTokens, d ∉ w.toList) (hs : ∀ x ∈ s.all, d ∉ x.toList) :
    ∀ x ∈ s.contents token, d ∉ x := by
  intro x hx
  rcases List.mem_append.mp hx with hx | hx
  · obtain ⟨y, hy, rfl⟩ := List.mem_map.mp hx
    exact hs y hy
  · rw [Option.mem_toList] at hx
    obtain ⟨t, htoken, rfl⟩ := Option.mem_map.mp hx
    rw [List.mem_cons, not_or]
    exact ⟨hne, not_mem_of_isToken hd hw (ht t htoken)⟩

lemma ofContents?_contents (v : List Char) :
    FilterPair.ofContents? "group" (s.contents token) v = some (s.pair token v) := by
  have hplain : ∀ y ∈ s.first.toList :: s.rest.map String.toList, isPlain y = true := by
    intro y hy
    obtain ⟨x, hx, rfl⟩ : ∃ x ∈ s.all, x.toList = y := List.mem_map.mp hy
    exact isPlain_of_mem hx
  have hmark : ∀ y ∈ token.map fun t => '$' :: t.toList, isMarked operatorTokens y = true := by
    intro y hy
    obtain ⟨t, htoken, rfl⟩ := Option.mem_map.mp hy
    exact ht t htoken
  refine (FilterPair.ofContents?_name s.keyword s.isName_first hplain hmark v).trans ?_
  simp [takeIf_map, pair, Function.comp_def]

lemma ofMatch?_pair (d : Char) (v : List Char) : Capture.ofMatch? d (s.pair token v).toMatch =
    some (.clause ⟨none, none, s.path, Operator.stated token,
      valuesIn d (Operator.stated token) (String.ofList v)⟩) := by
  obtain ⟨index, segments, hnext⟩ :
      ∃ i xs, takeIf (isIndex ∘ String.toList) s.rest = (i, xs) := ⟨_, _, rfl⟩
  obtain ⟨hrest, hindex, -⟩ := takeIf_spec hnext
  have hpair : s.pair token v = ⟨none, none, some s.first, index, segments, token,
      String.ofList v⟩ := by rw [pair, hnext]
  have hsegments : ∀ x ∈ segments, x ∈ s.all := by
    intro x hx
    rw [all, ← hrest]
    simp [hx]
  have hi : ∀ i ∈ index, i ≠ "" ∧ segments = [] := by
    rintro i rfl
    have hmem : i ∈ s.all := by
      rw [all, ← hrest]
      simp
    have hlen := s.index i (by rw [← hrest]; rfl) (hindex i rfl)
    rw [← hrest] at hlen
    exact ⟨(s.trimmed i hmem).1, by simpa using hlen⟩
  have hfilter : segments.filterMap Capture.nonBlank = segments := by
    rw [List.filterMap_congr fun x hx => nonBlank_of_mem (hsegments x hx), List.filterMap_some]
  have hpath : ".".intercalate (s.first :: (index.toList ++ segments.filterMap Capture.nonBlank)) =
      s.path := by
    rw [hfilter, hrest]
    rfl
  have htoken : token.filter (· != "") = token := by
    cases token with
    | none => rfl
    | some t =>
      refine Capture.filter_nonEmpty ?_
      rintro rfl
      have := ht "" rfl
      revert this
      decide
  rw [← FilterPair.matched_eq_toMatch "filter", hpair]
  refine Capture.ofMatch?_path d "filter" rfl rfl (nonBlank_of_mem List.mem_cons_self) hi
    (fun x hx => ?_) hpath s.pieces_path (by rw [htoken]; rfl)
  exact ⟨fun hc => (s.plain x (hsegments x hx) _ hc).1 rfl,
    fun hc => (s.plain x (hsegments x hx) _ hc).2.1 rfl⟩

end

/-! ### The query of a condition -/

lemma decode_conditionText {xs : List (List Char)} {v : List Char} (hx : ∀ x ∈ xs, '%' ∉ x)
    (hv : '%' ∉ v) :
    Percent.decode (Grammar.strip ("filter".toList ++ (xs.flatMap enclosed ++ '=' :: v))) =
      "filter".toList ++ (xs.flatMap enclosed ++ '=' :: Text.trimEnd v) := by
  have hassoc (w : List Char) : "filter".toList ++ (xs.flatMap enclosed ++ '=' :: w) =
      "filter".toList ++ (xs.flatMap enclosed ++ ['=']) ++ w := by simp
  have htrim : Text.trim ("filter".toList ++ (xs.flatMap enclosed ++ '=' :: v)) =
      "filter".toList ++ (xs.flatMap enclosed ++ '=' :: Text.trimEnd v) := by
    have hhead : 'f' ∈ ("filter".toList ++ (xs.flatMap enclosed ++ ['='])).head? := rfl
    rw [hassoc v, hassoc (Text.trimEnd v)]
    refine Text.trim_append ⟨'f', hhead, by decide⟩ fun c hc => ?_
    rw [← List.append_assoc, List.getLast?_concat] at hc
    cases hc
    rfl
  have hstrip : Grammar.strip ("filter".toList ++ (xs.flatMap enclosed ++ '=' :: v)) =
      "filter".toList ++ (xs.flatMap enclosed ++ '=' :: Text.trimEnd v) := by
    rw [Grammar.strip, htrim]
    split
    · next h => cases congrArg List.head? h
    · rfl
  have hkey : '%' ∉ "filter".toList := by decide
  have hbrackets : '%' ∉ xs.flatMap enclosed := by
    intro hc
    obtain ⟨x, hxs, hc⟩ := List.mem_flatMap.mp hc
    simp [enclosed, hx x hxs] at hc
  rw [hstrip, Percent.decode_of_not_mem]
  simp only [List.mem_append, List.mem_cons, not_or]
  exact ⟨hkey, hbrackets, by decide, fun h => hv ((Text.trimEnd_sublist v).subset h)⟩

end PathSegments

namespace FilterParser

variable {p : FilterParser} {token : Option String} {v : String}

lemma parse_conditionQuery (hp : ofOptions .standard = .ok p) (s : PathSegments)
    (ht : ∀ t ∈ token, isToken operatorTokens t.toList = true) (hamp : '&' ∉ v.toList)
    (hpercent : '%' ∉ v.toList) : p.parse (conditionQuery s.all token v) =
      .ok (some (.ofCondition s.path (Operator.stated token)
        (valuesIn ',' (Operator.stated token) (String.ofList (Text.trimEnd v.toList))))) := by
  have hescapes : ∀ x ∈ s.contents token, '%' ∉ x :=
    s.not_mem_contents ht (by decide +kernel) (by decide) (by decide)
      fun x hx hc => (s.plain x hx _ hc).2.2.2.2 rfl
  have hclosed : ∀ x ∈ s.contents token, ']' ∉ x :=
    s.not_mem_contents ht isUncased_bracket (by decide) not_mem_operatorTokens
      fun x hx hc => (s.plain x hx _ hc).2.1 rfl
  have hend : '&' ∉ Text.trimEnd v.toList := fun h =>
    hamp ((Text.trimEnd_sublist v.toList).subset h)
  have hpairs : FilterPair.pairsFrom "filter" "group" true
      ("filter".toList ++ ((s.contents token).flatMap enclosed ++ '=' :: Text.trimEnd v.toList)) =
        [s.pair token (Text.trimEnd v.toList)] :=
    FilterPair.pairsFrom_eq_singleton (Text.foldsTo_self _) hclosed hend
      (s.ofContents?_contents ht _)
  rw [← PathSegments.decode_conditionText hescapes hpercent, ← s.toList_conditionQuery] at hpairs
  rw [parse_of_pairsFrom hp hpairs (s.ofMatch?_pair ht ',' _)]
  exact assemble_condition s.not_isBlankString_path _ _

/-- It makes no difference whether the segments of a path have brackets of their own or are joined by
dots. -/
theorem parse_joinedPath : ∃ p, ofOptions .standard = .ok p ∧
    ∀ (s : PathSegments) (token : Option String) (v : String),
      (∀ t ∈ token, isToken operatorTokens t.toList = true) → '&' ∉ v.toList → '%' ∉ v.toList →
      p.parse (conditionQuery s.all token v) =
          p.parse (conditionQuery [".".intercalate s.all] token v) ∧
        p.parse (conditionQuery s.all token v) =
          .ok (some (.ofCondition (".".intercalate s.all) (Operator.stated token)
            (valuesIn ',' (Operator.stated token) (String.ofList (Text.trimEnd v.toList))))) := by
  obtain ⟨p, hp⟩ := exists_ofOptions_standard
  refine ⟨p, hp, fun s token v ht hamp hpercent => ?_⟩
  have hbrackets := parse_conditionQuery hp s ht hamp hpercent
  have hdots := parse_conditionQuery hp s.joined ht hamp hpercent
  rw [PathSegments.path_joined] at hdots
  exact ⟨hbrackets.trans hdots.symm, hbrackets⟩

def firstTag : PathSegments where
  first := "tags"
  rest := ["0"]
  start := ⟨'t', rfl, .inl (by decide)⟩
  keyword := by decide +kernel
  trimmed := by decide
  plain := by simp
  index := fun _ _ _ => Nat.le_refl 1

theorem parse_firstTag : ∃ p, ofOptions .standard = .ok p ∧
    (∀ t ∈ some "iN", isToken operatorTokens t.toList = true) ∧ '&' ∉ "x,y ".toList ∧
    '%' ∉ "x,y ".toList ∧
    p.parse "filter[tags][0][$iN]=x,y " = p.parse "filter[tags.0][$iN]=x,y " ∧
    p.parse "filter[tags][0][$iN]=x,y " = .ok (some ⟨⟨rootName, none, .and⟩,
      [.leaf ⟨"tags.0", some rootName, "tags.0", .isIn, .ofList ["x", "y"]⟩]⟩) := by
  obtain ⟨p, hp, h⟩ := parse_joinedPath
  have ht : ∀ t ∈ some "iN", isToken operatorTokens t.toList = true := by
    rintro t ⟨⟩
    decide +kernel
  have hamp : '&' ∉ "x,y ".toList := by decide
  have hpercent : '%' ∉ "x,y ".toList := by decide
  have hvalues : valuesIn ',' (Operator.stated (some "iN")) (String.ofList (Text.trimEnd "x,y ".toList)) =
      ["x", "y"] := by decide +kernel
  have hoperator : Operator.stated (some "iN") = .isIn := by decide +kernel
  obtain ⟨hsame, htree⟩ := h firstTag (some "iN") "x,y " ht hamp hpercent
  rw [hvalues, hoperator] at htree
  exact ⟨p, hp, ht, hamp, hpercent, hsame, htree⟩

end FilterParser

end BracketQuery
