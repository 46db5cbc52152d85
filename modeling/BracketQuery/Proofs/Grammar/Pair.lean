import BracketQuery.Proofs.Grammar.Enclosed
import BracketQuery.Proofs.Pattern.Successive

/-! Pairs that the filter grammar reads as they were written. -/

namespace BracketQuery

open FilterGrammar Pattern

structure FilterPair where
  kind : Option String
  conjunction : Option String
  member : Option String
  index : Option String
  segments : List String
  operator : Option String
  value : String

namespace FilterPair

variable (p : FilterPair)

def pathContents : List (List Char) := p.segments.map String.toList ++ contentOf ['$'] p.operator

def indexContents : List (List Char) := contentOf [] p.index ++ p.pathContents

def memberContents : List (List Char) := contentOf [] p.member ++ p.indexContents

def conjunctionContents : List (List Char) := contentOf ['$'] p.conjunction ++ p.memberContents

def pathText : List Char := (p.segments.map String.toList).flatMap enclosed

def pieces (key : String) : List Piece :=
  [⟨none, key.toList⟩] ++ (part [] FilterGrammar.kind p.kind ++
    (part ['$'] FilterGrammar.conjunction p.conjunction ++ (part [] memberOf p.member ++
      (part [] groupIndex p.index ++ ([⟨some path, p.pathText⟩] ++
        (part ['$'] FilterGrammar.operator p.operator ++
          [⟨none, ['=']⟩, ⟨some FilterGrammar.value, p.value.toList⟩]))))))

def text (key : String) : List Char := textOf (p.pieces key)

/-- The parts are in the language of the grammar, and no missing one is filled by a later one. -/
structure IsReadable (keyword : String) : Prop where
  kind : ∀ k ∈ p.kind, Text.foldsTo keyword.toList k.toList = true
  noKind : p.kind = none →
    ∀ x ∈ p.conjunctionContents.head?, Text.foldsTo keyword.toList x = false
  conjunction : ∀ t ∈ p.conjunction, isToken conjunctionTokens t.toList = true
  noConjunction : p.conjunction = none →
    ∀ x ∈ p.memberContents.head?, isMarked conjunctionTokens x = false
  member : ∀ g ∈ p.member, ∃ c s, g.toList = c :: s ∧ nameStart.contains c = true ∧
    ∀ d ∈ s, segmentChars.contains d = true
  noMember : p.member = none →
    ∀ x ∈ p.indexContents.head?, ∀ c ∈ x.head?, nameStart.contains c = false
  index : ∀ i ∈ p.index, i.toList ≠ [] ∧ ∀ c ∈ i.toList, Text.decimalDigits.contains c = true
  noIndex : p.index = none →
    ∀ x ∈ p.pathContents.head?, ∃ c ∈ x, Text.decimalDigits.contains c = false
  segments : ∀ s ∈ p.segments, s.toList ≠ [] ∧ ∀ c ∈ s.toList, segmentChars.contains c = true
  operator : ∀ t ∈ p.operator, isToken operatorTokens t.toList = true
  value : ∀ c ∈ p.value.toList, valueChars.contains c = true

end FilterPair

namespace FilterGrammar

def namePattern : Pattern := seq (chars nameStart) (star (chars segmentChars))

def pairParts (o : Options) : List Pattern :=
  [ word o.filterKey.toList,
    optional (bracketed (named kind (word o.groupKeyword.toList))),
    optional (marked (named conjunction (anyWord conjunctionTokens))),
    optional (bracketed (named memberOf namePattern)),
    optional (bracketed (named groupIndex (plus (chars Text.decimalDigits)))),
    named path (star (bracketed (plus (chars segmentChars)))),
    optional (marked (named operator (anyWord operatorTokens))),
    word ['='],
    named value (star (chars valueChars)) ]

lemma takes_namePattern :
    Takes namePattern fun x => ∃ c s, x = c :: s ∧ nameStart.contains c = true ∧
      ∀ d ∈ s, segmentChars.contains d = true := by
  intro c d h
  obtain ⟨x, hx, y, z, rfl, ⟨e, rfl, he⟩, hz⟩ :=
    (takes_chars nameStart).seq (takes_star_chars segmentChars) c d h
  exact ⟨e :: z, hx, e, z, rfl, he, hz⟩

variable {before after : List Char}

lemma reads_namePattern {c : Char} {s : List Char} (hc : nameStart.contains c = true)
    (hs : ∀ d ∈ s, segmentChars.contains d = true) :
    Reads before namePattern [⟨none, c :: s⟩] (']' :: after) := by
  have hstop : ∀ c ∈ (']' :: after).head?, segmentChars.contains c = false := by
    rintro c ⟨⟩
    decide
  exact ((reads_chars hc).seq (reads_star_chars hs hstop)).fuse

lemma not_mem_of_nameStart {x : List Char}
    (h : ∃ c s, x = c :: s ∧ nameStart.contains c = true ∧
      ∀ d ∈ s, segmentChars.contains d = true) : ']' ∉ x := by
  obtain ⟨c, s, rfl, hc, hs⟩ := h
  rw [List.mem_cons, not_or]
  refine ⟨?_, not_mem_of_segmentChars hs⟩
  rintro rfl
  revert hc
  decide

lemma not_contains_decimalDigits : Text.decimalDigits.contains ']' = false := by decide +kernel

lemma not_mem_of_digits {x : List Char} (h : ∀ c ∈ x, Text.decimalDigits.contains c = true) :
    ']' ∉ x := by
  intro hm
  have hd := h _ hm
  rw [not_contains_decimalDigits] at hd
  cases hd

lemma isUncased_bracket : CaseRun.isUncased ']' = true := by decide +kernel

lemma isUncased_ampersand : CaseRun.isUncased '&' = true := by decide +kernel

lemma not_mem_of_isToken {ws : List String} {d : Char} (hd : CaseRun.isUncased d)
    (hw : ∀ w ∈ ws, d ∉ w.toList) {x : List Char} (h : isToken ws x = true) : d ∉ x := by
  obtain ⟨w, hm, hf⟩ := List.any_eq_true.mp h
  exact Text.not_mem_of_foldsTo hd hf (hw w hm)

lemma not_mem_conjunctionTokens : ∀ w ∈ conjunctionTokens, ']' ∉ w.toList := by decide

lemma not_mem_operatorTokens : ∀ w ∈ operatorTokens, ']' ∉ w.toList := by decide

lemma apart_conjunctionTokens : ∀ w ∈ conjunctionTokens,
    ∀ v ∈ conjunctionTokens.takeWhile (· != w), Text.apart v.toList (w.toList ++ [']']) = true := by
  decide +kernel

lemma apart_operatorTokens : ∀ w ∈ operatorTokens,
    ∀ v ∈ operatorTokens.takeWhile (· != w), Text.apart v.toList (w.toList ++ [']']) = true := by
  decide +kernel

lemma reads_token {ws : List String} {x : List Char}
    (hw : ∀ w ∈ ws, ∀ v ∈ ws.takeWhile (· != w), Text.apart v.toList (w.toList ++ [']']) = true)
    (h : isToken ws x = true) : Reads before (anyWord ws) [⟨none, x⟩] (']' :: after) := by
  obtain ⟨w, hm, hf⟩ := List.any_eq_true.mp h
  refine reads_anyWord hm hf fun v hv => ?_
  exact Text.clash_of_apart (hw w hm v hv) (Text.foldsTo_append hf (Text.foldsTo_self [']']))

lemma takes_anyWord (ws : List String) : Takes (anyWord ws) fun x => isToken ws x = true := by
  induction ws with
  | nil =>
    intro c d h
    obtain ⟨_, -, _, -, he⟩ := takes_chars .empty c d h
    cases he
  | cons w ws ih =>
    cases ws with
    | nil => exact (takes_word w.toList).imp fun x hx => by simp [isToken, hx]
    | cons v ws => exact ((takes_word w.toList).either ih).imp fun x hx => by simpa [isToken] using hx

end FilterGrammar

namespace FilterPair

variable {p : FilterPair} {keyword : String}

lemma not_mem_content {mark : List Char} {x : Option String} (hm : ']' ∉ mark)
    (h : ∀ s ∈ x, ']' ∉ s.toList) : ∀ y ∈ contentOf mark x, ']' ∉ y := by
  intro y hy
  cases x with
  | none => cases hy
  | some s =>
    obtain rfl := List.mem_singleton.mp hy
    rw [List.mem_append, not_or]
    exact ⟨hm, h s rfl⟩

lemma IsReadable.not_mem (h : p.IsReadable keyword) : ∀ x ∈ p.conjunctionContents, ']' ∉ x := by
  intro x hx
  simp only [conjunctionContents, memberContents, indexContents, pathContents, List.mem_append] at hx
  rcases hx with hx | hx | hx | hx | hx
  · apply not_mem_content (by decide) _ x hx
    exact fun t ht =>
      not_mem_of_isToken isUncased_bracket not_mem_conjunctionTokens (h.conjunction t ht)
  · apply not_mem_content (by decide) _ x hx
    exact fun g hg => not_mem_of_nameStart (h.member g hg)
  · apply not_mem_content (by decide) _ x hx
    exact fun i hi => not_mem_of_digits (h.index i hi).2
  · obtain ⟨s, hs, rfl⟩ := List.mem_map.mp hx
    exact not_mem_of_segmentChars (h.segments s hs).2
  · apply not_mem_content (by decide) _ x hx
    exact fun t ht =>
      not_mem_of_isToken isUncased_bracket not_mem_operatorTokens (h.operator t ht)

variable {o : Options} {before after : List Char}

lemma restText_append (xs ys : List (List Char)) (after : List Char) :
    restText (xs ++ ys) after = xs.flatMap enclosed ++ restText ys after := by
  simp [restText]

lemma textOf_part_append {qs : List Piece} {contents : List (List Char)} {a : List Char}
    (mark : List Char) (n : String) (x : Option String)
    (h : textOf qs ++ after = restText contents a) :
    textOf (part mark n x ++ qs) ++ after = restText (contentOf mark x ++ contents) a := by
  rw [textOf_append, textOf_part, List.append_assoc, h, restText_append]

lemma not_mem_marked {ws : List String} (hw : ∀ w ∈ ws, ']' ∉ w.toList) {x : List Char}
    (h : isToken ws x = true) : ']' ∉ ['$'] ++ x := by
  rw [List.mem_append, not_or]
  exact ⟨by decide, not_mem_of_isToken isUncased_bracket hw h⟩

lemma fails_marked {ws : List String} {contents : List (List Char)} (n : String)
    (hw : ∀ w ∈ ws, ']' ∉ w.toList)
    (h : ∀ x ∈ contents.head?, ']' ∉ x ∧ isMarked ws x = false) :
    (marked (named n (anyWord ws))).Fails (restText contents after) := by
  apply fails_enclosed_restText eq_dollar_of_foldsTo ((takes_anyWord ws).named n)
    fun x hx => not_mem_marked hw hx
  intro x hx
  obtain ⟨hb, hm⟩ := h x hx
  refine ⟨hb, ?_⟩
  rintro y rfl hy
  rw [show isMarked ws (['$'] ++ y) = isToken ws y from rfl, hy] at hm
  cases hm

lemma IsReadable.reads_operator (h : p.IsReadable keyword) :
    Reads before (optional (marked (named FilterGrammar.operator (anyWord operatorTokens))))
      (part ['$'] FilterGrammar.operator p.operator) (restText [] after) := by
  apply reads_part rfl
  · exact fun t ht b => reads_token apart_operatorTokens (h.operator t ht)
  · exact fun _ => fails_marked _ not_mem_operatorTokens (by simp)

lemma IsReadable.reads_pathText (h : p.IsReadable keyword) :
    Reads before (named path (star (bracketed (plus (chars segmentChars)))))
      [⟨some path, p.pathText⟩] (restText (contentOf ['$'] p.operator) after) := by
  apply reads_path
  · intro x hx
    obtain ⟨s, hs, rfl⟩ := List.mem_map.mp hx
    exact h.segments s hs
  · intro x hx
    have hm := List.mem_of_mem_head? hx
    have hd : segmentChars.contains '$' = false := by decide
    refine ⟨h.not_mem x ?_, '$', ?_, hd⟩
    · simp [conjunctionContents, memberContents, indexContents, pathContents, hm]
    · cases ho : p.operator with
      | none => simp [ho, contentOf] at hm
      | some t =>
        obtain rfl : x = '$' :: t.toList := by simpa [ho, contentOf] using hm
        exact List.mem_cons_self

lemma IsReadable.reads_index (h : p.IsReadable keyword) :
    Reads before (optional (bracketed (named groupIndex (plus (chars Text.decimalDigits)))))
      (part [] groupIndex p.index) (restText p.pathContents after) := by
  apply reads_part rfl
  · intro i hi b
    obtain ⟨hne, hd⟩ := h.index i hi
    exact reads_plus_chars hne hd (by simpa using not_contains_decimalDigits)
  · intro hn
    apply fails_bracketed_restText ((takes_plus_chars _).named _) fun y hy => not_mem_of_digits hy.2
    intro x hx
    obtain ⟨c, hc, hf⟩ := h.noIndex hn x hx
    refine ⟨h.not_mem x ?_, fun hall => ?_⟩
    · simp [conjunctionContents, memberContents, indexContents, List.mem_of_mem_head? hx]
    · rw [hall.2 c hc] at hf
      cases hf

lemma IsReadable.reads_member (h : p.IsReadable keyword) :
    Reads before (optional (bracketed (named memberOf namePattern)))
      (part [] memberOf p.member) (restText p.indexContents after) := by
  apply reads_part rfl
  · intro g hg b
    obtain ⟨c, s, he, hc, hs⟩ := h.member g hg
    rw [he]
    exact reads_namePattern hc hs
  · intro hn
    apply fails_bracketed_restText (takes_namePattern.named _) fun y hy => not_mem_of_nameStart hy
    intro x hx
    refine ⟨h.not_mem x ?_, ?_⟩
    · simp [conjunctionContents, memberContents, List.mem_of_mem_head? hx]
    · rintro ⟨c, s, rfl, hc, -⟩
      rw [h.noMember hn _ hx c rfl] at hc
      cases hc

lemma IsReadable.reads_conjunction (h : p.IsReadable keyword) :
    Reads before (optional (marked (named FilterGrammar.conjunction (anyWord conjunctionTokens))))
      (part ['$'] FilterGrammar.conjunction p.conjunction) (restText p.memberContents after) := by
  apply reads_part rfl
  · exact fun t ht b => reads_token apart_conjunctionTokens (h.conjunction t ht)
  · intro hn
    refine fails_marked _ not_mem_conjunctionTokens fun x hx =>
      ⟨h.not_mem x ?_, h.noConjunction hn x hx⟩
    simp [conjunctionContents, List.mem_of_mem_head? hx]

lemma IsReadable.reads_kind (h : p.IsReadable keyword) (hk : ']' ∉ keyword.toList) :
    Reads before (optional (bracketed (named FilterGrammar.kind (word keyword.toList))))
      (part [] FilterGrammar.kind p.kind) (restText p.conjunctionContents after) := by
  apply reads_part rfl
  · exact fun k hkind b => reads_word (h.kind k hkind)
  · intro hn
    apply fails_bracketed_restText ((takes_word _).named _)
    · exact fun y hy => Text.not_mem_of_foldsTo isUncased_bracket hy hk
    · intro x hx
      refine ⟨h.not_mem x (List.mem_of_mem_head? hx), ?_⟩
      rw [h.noKind hn x hx]
      simp

lemma IsReadable.reads {key : String} (h : p.IsReadable o.groupKeyword)
    (hkey : Text.foldsTo o.filterKey.toList key.toList = true) (hk : ']' ∉ o.groupKeyword.toList)
    (ha : ∀ c ∈ after.head?, valueChars.contains c = false) :
    Reads before (join (pairParts o)) (p.pieces key) after := by
  have value {b : List Char} :
      Reads b (join [word ['='], named FilterGrammar.value (star (chars valueChars))])
        [⟨none, ['=']⟩, ⟨some FilterGrammar.value, p.value.toList⟩] after :=
    (reads_word (Text.foldsTo_self ['='])).join ((reads_star_chars h.value ha).named _)
  -- each part is followed by the rest of the pair, which begins with the next part that is there
  have t₀ : textOf [⟨none, ['=']⟩, ⟨some FilterGrammar.value, p.value.toList⟩] ++ after =
      restText [] (p.value.toList ++ after) := by simp [restText]
  have t₁ := textOf_part_append ['$'] FilterGrammar.operator p.operator t₀
  rw [List.append_nil] at t₁
  have t₂ : textOf ([⟨some path, p.pathText⟩] ++ (part ['$'] FilterGrammar.operator p.operator ++
      [⟨none, ['=']⟩, ⟨some FilterGrammar.value, p.value.toList⟩])) ++ after =
      restText p.pathContents (p.value.toList ++ after) := by
    rw [textOf_append, List.append_assoc, t₁, pathContents, restText_append]
    simp [pathText, restText]
  have t₃ := textOf_part_append [] groupIndex p.index t₂
  have t₄ := textOf_part_append [] memberOf p.member t₃
  have t₅ := textOf_part_append ['$'] FilterGrammar.conjunction p.conjunction t₄
  refine (reads_word hkey).join (Reads.join ?_ (Reads.join ?_ (Reads.join ?_
    (Reads.join ?_ (Reads.join ?_ (Reads.join ?_ value))))))
  · rw [t₅]
    exact h.reads_kind hk
  · rw [t₄]
    exact h.reads_conjunction
  · rw [t₃]
    exact h.reads_member
  · rw [t₂]
    exact h.reads_index
  · rw [t₁]
    exact h.reads_pathText
  · rw [t₀]
    exact h.reads_operator

end FilterPair

end BracketQuery
