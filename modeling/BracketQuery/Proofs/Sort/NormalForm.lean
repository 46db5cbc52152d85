import BracketQuery.Proofs.Ordered
import BracketQuery.Proofs.Text.Blank
import BracketQuery.Proofs.Text.Split
import BracketQuery.Sort
import Mathlib.Data.List.Basic

/-! The normal form of a sort list: its fields, each once and with a direction. -/

namespace BracketQuery

def SortKey.entry (k : SortKey) : String × SortDirection := (k.field, k.direction)

namespace SortParser

variable {o : Options} {p : SortParser} {t raw : String} {r : List Char} {k : SortKey}
  {ks : List SortKey}

inductive IsKey (p : SortParser) : SortKey → Prop
  | ascending {field : String} (hne : field ≠ "")
    (hmark : field.toList.head? ≠ some p.descendingMark) : IsKey p ⟨field, field, .ascending⟩
  | descending {field token : String} {r : List Char} (hne : field ≠ "")
    (hfield : field = String.ofList (Text.trim r)) (htoken : token.toList = p.descendingMark :: r) :
    IsKey p ⟨field, token, .descending⟩

lemma parseToken_of_nil (h : Text.trim t.toList = []) :
    p.parseToken t = .error (.invalidSortField "") := by
  rw [parseToken, h]
  rfl

lemma parseToken_of_mark (h : Text.trim t.toList = p.descendingMark :: r) :
    p.parseToken t =
      if (Text.trim r).isEmpty then .error (.invalidSortField (Text.trimmed t))
      else .ok ⟨String.ofList (Text.trim r), Text.trimmed t, .descending⟩ := by
  rw [parseToken, Text.trimmed, h]
  simp only [if_true]

lemma parseToken_of_plain {c : Char} (h : Text.trim t.toList = c :: r) (hc : c ≠ p.descendingMark) :
    p.parseToken t = .ok ⟨Text.trimmed t, Text.trimmed t, .ascending⟩ := by
  rw [parseToken, Text.trimmed, h]
  simp [hc]

lemma parseToken_eq_ok : p.parseToken t = .ok k ↔ k.token = Text.trimmed t ∧ IsKey p k := by
  constructor
  · intro h
    rcases htrim : Text.trim t.toList with _ | ⟨c, r⟩
    · rw [parseToken_of_nil htrim] at h
      cases h
    · have htoken : (Text.trimmed t).toList = c :: r := by
        rw [Text.trimmed, String.toList_ofList, htrim]
      by_cases hc : c = p.descendingMark
      · subst hc
        rw [parseToken_of_mark htrim] at h
        split at h
        · cases h
        · next hr =>
          cases h
          refine ⟨rfl, .descending ?_ rfl htoken⟩
          simpa [← String.toList_inj] using hr
      · rw [parseToken_of_plain htrim hc] at h
        cases h
        refine ⟨rfl, .ascending ?_ ?_⟩
        · simp [← String.toList_inj, htoken]
        · simpa [htoken] using hc
  · rintro ⟨htoken, h⟩
    have htrim : Text.trim t.toList = k.token.toList := by
      rw [htoken, Text.trimmed, String.toList_ofList]
    cases h with
    | ascending hne hmark =>
      obtain ⟨c, r, hr⟩ := List.exists_cons_of_ne_nil (mt String.toList_eq_nil_iff.mp hne)
      rw [parseToken_of_plain (htrim.trans hr) (by simpa [hr] using hmark), ← htoken]
    | @descending _ _ r hne hfield hr =>
      subst hfield
      have hr' : (Text.trim r).isEmpty = false := by
        simpa [← String.toList_inj] using hne
      rw [parseToken_of_mark (htrim.trans hr), hr', ← htoken]
      rfl

/-- A key that its own token stands for, where no delimiter would split it. -/
structure IsListed (p : SortParser) (k : SortKey) : Prop where
  key : IsKey p k
  trimmed : Text.trimmed k.token = k.token
  delimiter : p.delimiter ∉ k.token.toList

lemma IsListed.parseToken_eq (h : IsListed p k) : p.parseToken k.token = .ok k :=
  parseToken_eq_ok.mpr ⟨h.trimmed.symm, h.key⟩

lemma IsListed.not_isBlank_mark (h : IsListed p k) (hd : k.direction = .descending) :
    Text.isBlank p.descendingMark = false := by
  obtain ⟨hkey, htrim, -⟩ := h
  cases hkey with
  | ascending hne hmark => cases hd
  | descending hne hfield htoken =>
    have hstart := (Text.not_isBlank_of_trim (Text.trimmed_eq_self_iff.mp htrim)).1
    exact hstart p.descendingMark (by rw [htoken]; rfl)

/-- The keys that the tokens of a list stand for, those of a repeated field included. -/
def accepted (p : SortParser) (raw : String) : List SortKey :=
  (Text.pieces p.delimiter raw).filterMap fun t => (p.parseToken t).toOption

lemma isListed_of_mem_accepted (h : k ∈ p.accepted raw) : IsListed p k := by
  obtain ⟨t, ht, hk⟩ := List.mem_filterMap.mp h
  have hok : p.parseToken t = .ok k := by
    cases hp : p.parseToken t with
    | error e =>
      rw [hp] at hk
      cases hk
    | ok j =>
      rw [hp] at hk
      cases hk
      rfl
  obtain ⟨htoken, hkey⟩ := parseToken_eq_ok.mp hok
  refine ⟨hkey, ?_, ?_⟩
  · rw [htoken, Text.trimmed_eq_self_iff, Text.trimmed, String.toList_ofList, Text.trim_trim]
  · rw [htoken, Text.trimmed, String.toList_ofList]
    obtain ⟨x, hx, rfl⟩ := List.mem_map.mp ht
    rw [String.toList_ofList]
    exact mt (fun hd => (Text.trim_sublist x).subset hd) (Text.not_mem_of_mem_splitOn hx)

def join (p : SortParser) (tokens : List String) : String :=
  (String.singleton p.delimiter).intercalate tokens

lemma pieces_join {ts : List String} (hne : ts ≠ []) (h : ∀ t ∈ ts, p.delimiter ∉ t.toList) :
    Text.pieces p.delimiter (p.join ts) = ts := by
  have hjoin : p.join ts = String.ofList ([p.delimiter].intercalate (ts.map String.toList)) := by
    rw [join, ← String.toList_inj, String.toList_intercalate, String.toList_ofList,
      String.toList_singleton]
  rw [hjoin, Text.pieces_intercalate hne h]

lemma accepted_join (h : ∀ k ∈ ks, IsListed p k) :
    p.accepted (p.join (ks.map SortKey.token)) = ks := by
  rcases eq_or_ne ks [] with rfl | hne
  · rfl
  · have hread : ∀ k ∈ ks, ((fun t => (p.parseToken t).toOption) ∘ SortKey.token) k = some k := by
      intro k hk
      rw [Function.comp_apply, (h k hk).parseToken_eq]
      rfl
    rw [accepted, pieces_join (mt List.map_eq_nil_iff.mp hne)
      (List.forall_mem_map.mpr fun k hk => (h k hk).delimiter),
      List.filterMap_map, List.filterMap_congr hread, List.filterMap_some]

lemma parse_join (h : ∀ k ∈ ks, IsListed p k) (hn : (ks.map SortKey.field).Nodup) :
    p.parse (p.join (ks.map SortKey.token)) = ks := by
  change firsts _ (p.accepted _) = ks
  rw [accepted_join h]
  exact firsts_of_pairwise ((List.pairwise_map.mp hn).imp fun hne => beq_eq_false_iff_ne.mpr hne)

lemma map_field_parse (p : SortParser) (raw : String) :
    (p.parse raw).map SortKey.field = distinctItems ((p.accepted raw).map SortKey.field) :=
  map_firsts SortKey.field (p.accepted raw)

structure IsEntry (p : SortParser) (f : String × SortDirection) : Prop where
  ne_empty : f.1 ≠ ""
  trimmed : Text.trimmed f.1 = f.1
  delimiter : p.delimiter ∉ f.1.toList
  unmarked : f.2 = .ascending → f.1.toList.head? ≠ some p.descendingMark

structure IsNormal (p : SortParser) (fs : List (String × SortDirection)) : Prop where
  nodup : (fs.map Prod.fst).Nodup
  entry : ∀ f ∈ fs, IsEntry p f

lemma IsListed.isEntry (h : IsListed p k) : IsEntry p k.entry := by
  obtain ⟨hkey, htrim, hdelim⟩ := h
  cases hkey with
  | ascending hne hmark => exact ⟨hne, htrim, hdelim, fun _ => hmark⟩
  | descending hne hfield htoken =>
    refine ⟨hne, ?_, fun hd => hdelim ?_, nofun⟩
    · rw [SortKey.entry, hfield, Text.trimmed_eq_self_iff, String.toList_ofList, Text.trim_trim]
    · rw [SortKey.entry, hfield, String.toList_ofList] at hd
      rw [htoken]
      exact List.mem_cons_of_mem _ ((Text.trim_sublist _).subset hd)

def write (p : SortParser) : String × SortDirection → String
  | (field, .ascending) => field
  | (field, .descending) => String.singleton p.descendingMark ++ field

def keyOf (p : SortParser) (f : String × SortDirection) : SortKey := ⟨f.1, p.write f, f.2⟩

lemma isListed_keyOf {f : String × SortDirection} (hm : Text.isBlank p.descendingMark = false)
    (hd : p.descendingMark ≠ p.delimiter) (h : IsEntry p f) : IsListed p (p.keyOf f) := by
  obtain ⟨field, direction⟩ := f
  obtain ⟨hne, htrim, hdelim, hmark⟩ := h
  cases direction with
  | ascending => exact ⟨.ascending hne (hmark rfl), htrim, hdelim⟩
  | descending =>
    have htoken : (p.write (field, .descending)).toList = p.descendingMark :: field.toList := by
      rw [write, String.toList_append, String.toList_singleton, List.singleton_append]
    refine ⟨.descending hne htrim.symm htoken, ?_, ?_⟩
    · rw [Text.trimmed_eq_self_iff, keyOf, htoken]
      refine Text.trim_eq_self (fun c hc => ?_) fun c hc => ?_
      · cases hc
        exact hm
      · rw [List.getLast?_cons_of_ne_nil (mt String.toList_eq_nil_iff.mp hne)] at hc
        exact (Text.not_isBlank_of_trim (Text.trimmed_eq_self_iff.mp htrim)).2 c hc
    · rw [keyOf, htoken, List.mem_cons, not_or]
      exact ⟨hd.symm, hdelim⟩

lemma ofOptions_eq_ok (h : ofOptions o = .ok p) :
    p = ⟨o.sortDelimiter, o.descendingMark⟩ ∧ p.descendingMark ≠ p.delimiter := by
  obtain ⟨_, hv, h⟩ := bind_eq_ok.mp h
  cases h
  exact ⟨rfl, (Options.validate_eq_ok.mp hv).2⟩

lemma isListed_of_mem_parse (h : k ∈ p.parse raw) : IsListed p k :=
  isListed_of_mem_accepted (mem_of_mem_firsts h)

lemma nodup_fields_parse (p : SortParser) (raw : String) :
    ((p.parse raw).map SortKey.field).Nodup := by
  rw [map_field_parse]
  exact nodup_distinctItems _

lemma isNormal_parse (p : SortParser) (raw : String) :
    IsNormal p ((p.parse raw).map SortKey.entry) := by
  refine ⟨?_, List.forall_mem_map.mpr fun k hk => (isListed_of_mem_parse hk).isEntry⟩
  rw [List.map_map]
  exact nodup_fields_parse p raw

lemma parse_write {fs : List (String × SortDirection)} (hm : Text.isBlank p.descendingMark = false)
    (hd : p.descendingMark ≠ p.delimiter) (h : IsNormal p fs) :
    p.parse (p.join (fs.map p.write)) = fs.map p.keyOf := by
  have hlisted : ∀ k ∈ fs.map p.keyOf, IsListed p k :=
    List.forall_mem_map.mpr fun f hf => isListed_keyOf hm hd (h.entry f hf)
  have hnodup : ((fs.map p.keyOf).map SortKey.field).Nodup := by
    rw [List.map_map]
    exact h.nodup
  have hjoin := parse_join hlisted hnodup
  rwa [List.map_map] at hjoin

lemma exists_descending (p : SortParser) :
    ∃ field, IsNormal p [(field, SortDirection.descending)] := by
  have hnormal {field : String} (hne : field ≠ "") (htrim : Text.trimmed field = field)
      (hd : p.delimiter ∉ field.toList) : IsNormal p [(field, SortDirection.descending)] :=
    ⟨List.pairwise_singleton _ _, List.forall_mem_singleton.mpr ⟨hne, htrim, hd, nofun⟩⟩
  by_cases hd : p.delimiter = 'a'
  · exact ⟨"b", hnormal (by decide) (by decide) (by rw [hd]; decide)⟩
  · exact ⟨"a", hnormal (by decide) (by decide) (by simpa using hd)⟩

/--
The keys of a list have normal entries. Their fields are those of the accepted tokens, in the order
in which these first occur, and each key is the first accepted one for its field; joined again, the
tokens of the keys are read as the same keys. All normal entries can be written as a list and read
from it exactly if the mark is not white space, which would be trimmed.
-/
theorem parse_normalForm (hp : ofOptions o = .ok p) :
    (∀ raw, IsNormal p ((p.parse raw).map SortKey.entry) ∧
      (p.parse raw).map SortKey.field = distinctItems ((p.accepted raw).map SortKey.field) ∧
      (∀ k ∈ p.parse raw, (p.accepted raw).find? (fun j => j.field == k.field) = some k) ∧
      p.parse (p.join ((p.parse raw).map SortKey.token)) = p.parse raw) ∧
    (Text.isBlank o.descendingMark = false ↔
      ∀ fs, IsNormal p fs → (p.parse (p.join (fs.map p.write))).map SortKey.entry = fs) := by
  obtain ⟨rfl, hd⟩ := ofOptions_eq_ok hp
  refine ⟨fun raw => ⟨isNormal_parse _ raw, map_field_parse _ raw, fun k hk => ?_, ?_⟩, ?_, ?_⟩
  · exact find?_of_mem_firsts hk
  · exact parse_join (fun k hk => isListed_of_mem_parse hk) (nodup_fields_parse _ raw)
  · intro hm fs hf
    rw [parse_write hm hd hf, List.map_map]
    exact List.map_id fs
  · intro hwrite
    obtain ⟨field, hf⟩ := exists_descending ⟨o.sortDelimiter, o.descendingMark⟩
    have hmem := List.mem_singleton_self (field, SortDirection.descending)
    rw [← hwrite _ hf] at hmem
    obtain ⟨k, hk, he⟩ := List.mem_map.mp hmem
    exact (isListed_of_mem_parse hk).not_isBlank_mark (congrArg Prod.snd he)

def semicolons : Options :=
  { Options.standard with sortDelimiter := ';', descendingMark := '!' }

/-- A list with white space, a mark alone, an empty token, a field that begins with the mark, and a
field that comes twice. -/
def untidy : String := " ! made at ;!;;b; !!a;!b"

theorem parse_normalForm_untidy :
    let p : SortParser := ⟨';', '!'⟩
    let keys : List SortKey := [⟨"made at", "! made at", .descending⟩, ⟨"b", "b", .ascending⟩,
      ⟨"!a", "!!a", .descending⟩]
    ofOptions semicolons = .ok p ∧ Text.isBlank semicolons.descendingMark = false ∧
    p.parse untidy = keys ∧ IsNormal p (keys.map SortKey.entry) ∧
    p.parse (p.join (keys.map SortKey.token)) = keys ∧
    p.join ((keys.map SortKey.entry).map p.write) = "!made at;b;!!a" ∧
    (p.parse "!made at;b;!!a").map SortKey.entry = keys.map SortKey.entry := by
  intro p keys
  have hp : ofOptions semicolons = .ok p := by decide +kernel
  have hm : Text.isBlank semicolons.descendingMark = false := by decide
  have hkeys : p.parse untidy = keys := by decide +kernel
  have hjoin : p.join ((keys.map SortKey.entry).map p.write) = "!made at;b;!!a" := by
    decide +kernel
  obtain ⟨hread, hwrite⟩ := parse_normalForm hp
  obtain ⟨hnormal, -, -, hagain⟩ := hread untidy
  rw [hkeys] at hnormal hagain
  exact ⟨hp, hm, hkeys, hnormal, hagain, hjoin, hjoin ▸ hwrite.mp hm _ hnormal⟩

end SortParser

end BracketQuery
