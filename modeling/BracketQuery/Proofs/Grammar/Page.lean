import BracketQuery.Grammar.Page
import BracketQuery.Proofs.Grammar.Query
import BracketQuery.Proofs.Grammar.Reader
import BracketQuery.Proofs.Grammar.Separated

/-! The matches of the page grammar are the pairs between the ampersands of a query. -/

namespace BracketQuery

open FilterGrammar Pattern

structure PagePair where
  property : String
  value : String
deriving DecidableEq

namespace PageGrammar

def pairParts (o : Options) : List Pattern :=
  [ word o.pageKey.toList,
    bracketed (named property (anyWord properties)),
    word ['='],
    named value (star (chars valueChars)) ]

lemma pattern_eq (o : Options) : pattern o = seq pairStart (join (pairParts o)) :=
  join_pairStart <|
    join_ne_empty (p := named value (star (chars valueChars))) (by simp) nofun

lemma not_mem_properties : ∀ w ∈ properties, ']' ∉ w.toList := by decide

lemma ampersand_not_mem_properties : ∀ w ∈ properties, '&' ∉ w.toList := by decide

lemma apart_properties : ∀ w ∈ properties,
    ∀ v ∈ properties.takeWhile (· != w), Text.apart v.toList (w.toList ++ [']']) = true := by
  decide +kernel

lemma takes_pairParts (o : Options) : Takes (join (pairParts o)) fun x => ∃ k y v,
    x = k ++ (enclosed y ++ '=' :: v) ∧ Text.foldsTo o.pageKey.toList k = true ∧
      isToken properties y = true := by
  have hvalue : Takes (join [named value (star (chars valueChars))]) _ :=
    (takes_star_chars valueChars).named value
  have hproperty : Takes (bracketed (named property (anyWord properties))) _ :=
    takes_enclosed eq_nil_of_foldsTo_nil ((takes_anyWord properties).named property)
  refine ((takes_word o.pageKey.toList).join_cons
    (hproperty.join_cons ((takes_word ['=']).join_cons hvalue))).imp ?_
  rintro _ ⟨k, _, rfl, hk, _, _, rfl, ⟨y, rfl, hy⟩, e, v, rfl, he, -⟩
  obtain rfl := eq_single_of_foldsTo (by decide) e he
  exact ⟨k, y, v, rfl, hk, hy⟩

end PageGrammar

open PageGrammar

namespace PagePair

def read? (key : String) (s : List Char) : Option PagePair :=
  let n := key.toList.length
  if Text.foldsTo key.toList (s.take n) then
    match brackets (s.drop n) with
    | ([x], '=' :: v) =>
      if isToken properties x then some ⟨String.ofList x, String.ofList v⟩ else none
    | _ => none
  else none

def pieces (p : PagePair) (key : List Char) : List Piece :=
  [⟨none, key⟩] ++ (part [] PageGrammar.property (some p.property) ++
    [⟨none, ['=']⟩, ⟨some PageGrammar.value, p.value.toList⟩])

def toMatch (p : PagePair) : GrammarMatch :=
  ⟨[(PageGrammar.value, p.value), (PageGrammar.property, p.property)]⟩

variable {key : String} {p : PagePair} {s : List Char}

lemma textOf_pieces (p : PagePair) (k : List Char) :
    textOf (p.pieces k) = k ++ (enclosed p.property.toList ++ '=' :: p.value.toList) := by
  simp [pieces, part, enclosed]

lemma read?_eq_some : read? key s = some p ↔ ∃ k, s = textOf (p.pieces k) ∧
    Text.foldsTo key.toList k = true ∧ isToken properties p.property.toList = true := by
  constructor
  · intro h
    rw [read?, Option.ite_none_right_eq_some] at h
    obtain ⟨hk, h⟩ := h
    split at h
    · next x v hb =>
      rw [Option.ite_none_right_eq_some] at h
      obtain ⟨hx, rfl⟩ := h.imp_right Option.some.inj
      refine ⟨s.take key.toList.length, ?_, hk, by simpa using hx⟩
      have hbrackets := flatMap_brackets (s.drop key.toList.length)
      rw [hb, List.flatMap_singleton] at hbrackets
      rw [textOf_pieces, String.toList_ofList, String.toList_ofList, hbrackets,
        List.take_append_drop]
    · cases h
  · rintro ⟨k, rfl, hk, hp⟩
    have hlen := Text.foldsTo_length hk
    have hm := not_mem_of_isToken isUncased_bracket not_mem_properties hp
    have hb : brackets ([p.property.toList].flatMap enclosed ++ '=' :: p.value.toList) = _ :=
      brackets_enclosed (by simpa using hm) (by simp)
    rw [List.flatMap_singleton] at hb
    rw [textOf_pieces, read?]
    simp only [List.take_left' hlen, List.drop_left' hlen, hk, hb, hp, if_true,
      String.ofList_toList]

lemma captured_pieces (p : PagePair) (k : List Char) :
    (captured (p.pieces k)).reverse = p.toMatch.captures := by
  simp [pieces, part, captured, toMatch]

lemma nodup_names (p : PagePair) (k : List Char) :
    ((p.pieces k).filterMap Piece.name).Nodup := by
  simp [pieces, part]
  decide

variable {o : Options}

lemma reads {before after k : List Char} (hk : Text.foldsTo o.pageKey.toList k = true)
    (hp : isToken properties p.property.toList = true) (hv : '&' ∉ p.value.toList)
    (ha : IsEnd after) : Reads before (join (PageGrammar.pairParts o)) (p.pieces k) after := by
  have hchars : ∀ c ∈ p.value.toList, valueChars.contains c = true := by
    intro c hc
    apply contains_valueChars
    rintro rfl
    exact hv hc
  have hvalue {b : List Char} : Reads b (join [named PageGrammar.value (star (chars valueChars))])
      [⟨some PageGrammar.value, p.value.toList⟩] after :=
    (reads_star_chars hchars ha.not_value).named _
  exact (reads_word hk).join ((reads_enclosed _ fun b => reads_token apart_properties hp).join
    ((reads_word (Text.foldsTo_self ['='])).join hvalue))

lemma settles (hk : '&' ∉ o.pageKey.toList) {x : List Char} (hx : '&' ∉ x) :
    (join (PageGrammar.pairParts o)).Settles x ((read? o.pageKey x).map toMatch) := by
  cases hr : read? o.pageKey x with
  | none =>
    intro after ha c hc
    rw [List.eq_nil_iff_forall_not_mem]
    intro d hd
    obtain ⟨_, hs, k, y, v, rfl, hkey, hy⟩ := takes_pairParts o c d hd
    have hfront : '&' ∉ k ++ (enclosed y ++ ['=']) := by
      have hy := not_mem_of_isToken isUncased_ampersand ampersand_not_mem_properties hy
      simpa [enclosed, hy] using Text.not_mem_of_foldsTo isUncased_ampersand hkey hk
    rw [hc, show k ++ (enclosed y ++ '=' :: v) ++ d.rest =
      k ++ (enclosed y ++ ['=']) ++ (v ++ d.rest) by simp] at hs
    obtain ⟨w, rfl⟩ := exists_append_of_isEnd hfront ha hs
    have hsome : read? o.pageKey _ = some ⟨String.ofList y, String.ofList w⟩ :=
      read?_eq_some.mpr ⟨k, rfl, hkey, by simpa using hy⟩
    simp only [textOf_pieces, String.toList_ofList] at hsome
    simp [hsome] at hr
  | some p =>
    obtain ⟨k, rfl, hkey, hp⟩ := read?_eq_some.mp hr
    have hv : '&' ∉ p.value.toList := by
      intro hm
      exact hx (by simp [textOf_pieces, hm])
    have hne : textOf (p.pieces k) ≠ [] := by simp [textOf_pieces, enclosed]
    exact ⟨p.pieces k, hne, rfl, nodup_names p k, by rw [captured_pieces],
      fun before after ha => reads hkey hp hv ha⟩

theorem scan_eq {g : Grammar} (hv : o.IsValid) (hg : PageGrammar.ofOptions o = .ok g)
    (hb : o.matchBudget ≠ 0) (input : String) :
    g.scan input = (Text.splitOn '&' (Percent.decode (Grammar.strip input.toList))).filterMap
      fun x => (read? o.pageKey x).map toMatch := by
  obtain rfl := Grammar.eq_of_ofPattern hg
  exact Grammar.scan_separated (PageGrammar.pattern_eq o) hb rfl fun x hx =>
    settles (hv.not_mem rfl (by simp)) (Text.not_mem_of_mem_splitOn hx)

lemma exists_ofOptions_standard : ∃ g, PageGrammar.ofOptions .standard = .ok g := by
  have hfits : (PageGrammar.pattern .standard).fits = true := by decide +kernel
  exact Grammar.exists_ofPattern hfits _ _

end PagePair

end BracketQuery
