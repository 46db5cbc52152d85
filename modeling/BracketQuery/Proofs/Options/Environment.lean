import BracketQuery.Filter.Parser
import BracketQuery.Options.Environment
import BracketQuery.Page
import BracketQuery.Proofs.Text.Numeral
import BracketQuery.Sort

/-! Options from the environment: each setting is read from its variable, and what comes out is
valid. -/

namespace BracketQuery

lemma bind_pure_eq_error {α β ε : Type} {x : Except ε α} {f : α → β} {e : ε} :
    (x >>= fun a => pure (f a)) = .error e ↔ x = .error e := by
  cases x <;> simp [bind, Except.bind, pure, Except.pure]

lemma Grammar.ofPattern_eq_error {text : String} {p : Pattern} {budget : Nat} {e : QueryError} :
    ofPattern text p budget = .error e ↔ e = .invalidOptions .badPattern ∧ p.fits = false := by
  unfold ofPattern
  cases p.fits <;> simp [eq_comm]

namespace Options

open Environment

namespace Environment

variable {α : Type} {env : Environment} {name : String} {read? : String → Option α} {d v : α}

def IsUnset (env : Environment) (name : String) : Prop := env name = none ∨ env name = some ""

/-- The value of a setting is what the text of its variable is read as, or the standard one if the
variable is not set. -/
structure Sets (env : Environment) (name : String) (read? : String → Option α) (d v : α) :
    Prop where
  unset : env.IsUnset name → v = d
  set : ∀ s, env name = some s → s ≠ "" → read? s = some v

lemma text?_eq_none : env.text? name = none ↔ env.IsUnset name := by
  rw [text?, IsUnset]
  cases env name <;> simp

lemma text?_eq_some {s : String} : env.text? name = some s ↔ env name = some s ∧ s ≠ "" := by
  simp only [text?, Option.filter_eq_some_iff, bne_iff_ne]

lemma sets_of_none (h : env.text? name = none) : env.Sets name read? d v ↔ v = d := by
  have hunset := text?_eq_none.mp h
  refine ⟨fun hs => hs.unset hunset, fun hv => ⟨fun _ => hv, fun s hs hne => ?_⟩⟩
  rw [text?_eq_some.mpr ⟨hs, hne⟩] at h
  cases h

lemma sets_of_some {s : String} (h : env.text? name = some s) :
    env.Sets name read? d v ↔ read? s = some v := by
  obtain ⟨hs, hne⟩ := text?_eq_some.mp h
  refine ⟨fun hset => hset.set s hs hne, fun hv => ⟨fun hunset => ?_, fun t ht _ => ?_⟩⟩
  · rw [text?_eq_none.mpr hunset] at h
    cases h
  · rw [hs] at ht
    cases ht
    exact hv

lemma sets_of_eq {s : String} (hs : env name = some s) (hne : s ≠ "") (hv : read? s = some v) :
    env.Sets name read? d v :=
  (sets_of_some (text?_eq_some.mpr ⟨hs, hne⟩)).mpr hv

def single? (s : String) : Option Char :=
  match s.toList with
  | [c] => some c
  | _ => none

lemma sets_text {d v : String} : env.Sets name some d v ↔ v = (env.text? name).getD d := by
  cases h : env.text? name with
  | none => rw [sets_of_none h, Option.getD_none]
  | some s => rw [sets_of_some h, Option.getD_some, Option.some_inj, eq_comm]

lemma sets_char {d v : Char} :
    env.Sets name single? d v ↔ ∃ c, env.char? name = .ok c ∧ v = c.getD d := by
  cases h : env.text? name with
  | none => simp [sets_of_none h, char?, h, eq_comm]
  | some s =>
    rw [sets_of_some h]
    rcases hs : s.toList with _ | ⟨c, _ | ⟨e, cs⟩⟩ <;> simp [char?, h, single?, hs, eq_comm]

lemma sets_number {bound : Nat} {f : Nat → α}
    (hread : ∀ s, read? s = (Text.readNat? bound s.toList).map f) :
    env.Sets name read? d v ↔ ∃ n, env.number? bound name = .ok n ∧ v = (n.map f).getD d := by
  cases h : env.text? name with
  | none => simp [sets_of_none h, number?, h, eq_comm]
  | some s =>
    rw [sets_of_some h, hread, number?, h]
    cases hn : Text.readNat? bound s.toList <;> simp [hn, eq_comm]

lemma le_of_number? {bound n : Nat} (h : env.number? bound name = .ok (some n)) : n ≤ bound := by
  unfold number? at h
  split at h
  · cases h
  · split at h
    · next hn =>
      cases h
      exact Text.readNat?_le hn
    · cases h

structure Holds (env : Environment) (o : Options) : Prop where
  filterKey : env "QUERY_FILTER_KEY" = some o.filterKey
  groupKeyword : env "QUERY_FILTER_GROUP_KEYWORD" = some o.groupKeyword
  pageKey : env "QUERY_PAGE_KEY" = some o.pageKey
  valueDelimiter : env "QUERY_VALUE_DELIMITER" = some (.singleton o.valueDelimiter)
  sortDelimiter : env "QUERY_SORT_DELIMITER" = some (.singleton o.sortDelimiter)
  descendingMark : env "QUERY_SORT_DESCENDING_PREFIX" = some (.singleton o.descendingMark)
  matchBudget : env "QUERY_MATCH_TIMEOUT_MS" = some (Text.decimal o.matchBudget)
  maxPageLimit : env "QUERY_MAX_PAGE_LIMIT" = some (Text.decimal o.maxPageLimit.toNat)

structure Gives (env : Environment) (o : Options) : Prop where
  filterKey : env.Sets "QUERY_FILTER_KEY" some standard.filterKey o.filterKey
  groupKeyword : env.Sets "QUERY_FILTER_GROUP_KEYWORD" some standard.groupKeyword o.groupKeyword
  pageKey : env.Sets "QUERY_PAGE_KEY" some standard.pageKey o.pageKey
  valueDelimiter :
    env.Sets "QUERY_VALUE_DELIMITER" single? standard.valueDelimiter o.valueDelimiter
  sortDelimiter : env.Sets "QUERY_SORT_DELIMITER" single? standard.sortDelimiter o.sortDelimiter
  descendingMark :
    env.Sets "QUERY_SORT_DESCENDING_PREFIX" single? standard.descendingMark o.descendingMark
  matchBudget : env.Sets "QUERY_MATCH_TIMEOUT_MS"
    (fun s => Text.readNat? Text.word64Top s.toList) standard.matchBudget o.matchBudget
  maxPageLimit :
    env.Sets "QUERY_MAX_PAGE_LIMIT" Text.readWord32? standard.maxPageLimit o.maxPageLimit

end Environment

variable {env : Environment} {o : Options} {name : String}

lemma one_le_limit {n : Option Nat} (h : env.number? Text.word32Top name = .ok n) :
    1 ≤ (n.map UInt32.ofNat).getD standard.maxPageLimit ↔ n ≠ some 0 := by
  cases n with
  | none => simp +decide
  | some n =>
    have hn : n < 2 ^ 32 := Nat.lt_succ_of_le (le_of_number? h)
    rw [Option.map_some, Option.getD_some, UInt32.le_iff_toNat_le, UInt32.toNat_ofNat_of_lt' hn]
    simp [Nat.one_le_iff_ne_zero]

lemma ofEnvironment_eq_ok :
    ofEnvironment env = .ok o ↔ env.Gives o ∧ o.validate = .ok () ∧ 1 ≤ o.maxPageLimit := by
  have hbudget (s : String) : Text.readNat? Text.word64Top s.toList =
      (Text.readNat? Text.word64Top s.toList).map id := (Option.map_id_apply ..).symm
  have hlimit (s : String) : Text.readWord32? s =
      (Text.readNat? Text.word32Top s.toList).map UInt32.ofNat := rfl
  constructor
  · intro h
    simp only [ofEnvironment, bind_eq_ok] at h
    obtain ⟨v, hv, s, hs, d, hd, b, hb, l, hl, h⟩ := h
    split at h
    · obtain ⟨_, herror, -⟩ := bind_eq_ok.mp h
      cases herror
    · next hzero =>
      obtain ⟨_, hvalid, ho⟩ := bind_eq_ok.mp h
      cases ho
      refine ⟨⟨sets_text.mpr rfl, sets_text.mpr rfl, sets_text.mpr rfl, sets_char.mpr ⟨v, hv, rfl⟩,
        sets_char.mpr ⟨s, hs, rfl⟩, sets_char.mpr ⟨d, hd, rfl⟩,
        (sets_number hbudget).mpr ⟨b, hb, ?_⟩, (sets_number hlimit).mpr ⟨l, hl, rfl⟩⟩, hvalid,
        (one_le_limit hl).mpr hzero⟩
      rw [Option.map_id_apply]
  · rintro ⟨h, hvalid, hpos⟩
    obtain ⟨v, hv, hvalue⟩ := sets_char.mp h.valueDelimiter
    obtain ⟨s, hs, hsort⟩ := sets_char.mp h.sortDelimiter
    obtain ⟨d, hd, hmark⟩ := sets_char.mp h.descendingMark
    obtain ⟨b, hb, hms⟩ := (sets_number hbudget).mp h.matchBudget
    obtain ⟨l, hl, hmax⟩ := (sets_number hlimit).mp h.maxPageLimit
    rw [Option.map_id_apply] at hms
    rw [hmax, one_le_limit hl] at hpos
    simp only [ofEnvironment, bind_eq_ok]
    refine ⟨v, hv, s, hs, d, hd, b, hb, l, hl, ?_⟩
    rw [if_neg hpos, ← sets_text.mp h.filterKey, ← sets_text.mp h.groupKeyword,
      ← sets_text.mp h.pageKey, ← hvalue, ← hsort, ← hmark, ← hms, ← hmax]
    exact bind_eq_ok.mpr ⟨(), hvalid, rfl⟩

lemma Environment.Holds.gives (h : env.Holds o) (hvalid : o.IsValid)
    (hbudget : o.matchBudget ≤ Text.word64Top) : env.Gives o := by
  have hsingle (c : Char) : String.singleton c ≠ "" := by
    simp [← String.toList_inj]
  have hread (c : Char) : single? (String.singleton c) = some c := by
    simp [single?]
  have hdecimal (n : Nat) : Text.decimal n ≠ "" :=
    mt String.toList_eq_nil_iff.mpr (Text.isDigits_decimal n).ne_nil
  exact {
    filterKey := sets_of_eq h.filterKey (hvalid.ne_empty (by simp)) rfl
    groupKeyword := sets_of_eq h.groupKeyword (hvalid.ne_empty (by simp)) rfl
    pageKey := sets_of_eq h.pageKey (hvalid.ne_empty (by simp)) rfl
    valueDelimiter := sets_of_eq h.valueDelimiter (hsingle _) (hread _)
    sortDelimiter := sets_of_eq h.sortDelimiter (hsingle _) (hread _)
    descendingMark := sets_of_eq h.descendingMark (hsingle _) (hread _)
    matchBudget := sets_of_eq h.matchBudget (hdecimal _) (Text.readNat?_decimal hbudget)
    maxPageLimit := sets_of_eq h.maxPageLimit (hdecimal _) (Text.readWord32?_decimal _) }

end Options

section

variable {o : Options} (hv : o.validate = .ok ()) {e : QueryError}

include hv

lemma FilterParser.ofOptions_eq_error : FilterParser.ofOptions o = .error e ↔
    e = .invalidOptions .badPattern ∧ (FilterGrammar.pattern o).fits = false := by
  rw [FilterParser.ofOptions, hv, ← Grammar.ofPattern_eq_error]
  exact bind_pure_eq_error

lemma PageParser.ofOptions_eq_error : PageParser.ofOptions o = .error e ↔
    e = .invalidOptions .badPattern ∧ (PageGrammar.pattern o).fits = false := by
  rw [PageParser.ofOptions, hv, ← Grammar.ofPattern_eq_error]
  exact bind_pure_eq_error

lemma SortParser.ofOptions_eq :
    SortParser.ofOptions o = .ok ⟨o.sortDelimiter, o.descendingMark⟩ := by
  rw [SortParser.ofOptions, hv]
  rfl

end

namespace Options

/--
Valid options with a positive page limit and a time that fits in 64 bits are read from an
environment that holds them. What an environment gives are the options that its variables set, a
variable without a text leaving the standard setting, where these are valid and the limit is
positive. Their parsers can fail only if a pattern is too large, and that of sort lists cannot
fail.
-/
theorem ofEnvironment_holds (env : Environment) :
    (∀ o, env.Holds o → o.validate = .ok () → 1 ≤ o.maxPageLimit →
      o.matchBudget ≤ Text.word64Top → ofEnvironment env = .ok o) ∧
    (∀ o, ofEnvironment env = .ok o ↔ env.Gives o ∧ o.validate = .ok () ∧ 1 ≤ o.maxPageLimit) ∧
    ∀ o, ofEnvironment env = .ok o →
      (∀ e, FilterParser.ofOptions o = .error e ↔
        e = .invalidOptions .badPattern ∧ (FilterGrammar.pattern o).fits = false) ∧
      (∀ e, PageParser.ofOptions o = .error e ↔
        e = .invalidOptions .badPattern ∧ (PageGrammar.pattern o).fits = false) ∧
      SortParser.ofOptions o = .ok ⟨o.sortDelimiter, o.descendingMark⟩ := by
  refine ⟨fun o h hv hlimit hbudget => ?_, fun o => ofEnvironment_eq_ok, fun o h => ?_⟩
  · exact ofEnvironment_eq_ok.mpr ⟨h.gives (validate_eq_ok.mp hv) hbudget, hv, hlimit⟩
  · obtain ⟨-, hv, -⟩ := ofEnvironment_eq_ok.mp h
    exact ⟨fun e => FilterParser.ofOptions_eq_error hv, fun e => PageParser.ofOptions_eq_error hv,
      SortParser.ofOptions_eq hv⟩

def toEnvironment (o : Options) : Environment := fun name =>
  [("QUERY_FILTER_KEY", o.filterKey), ("QUERY_FILTER_GROUP_KEYWORD", o.groupKeyword),
    ("QUERY_PAGE_KEY", o.pageKey), ("QUERY_VALUE_DELIMITER", .singleton o.valueDelimiter),
    ("QUERY_SORT_DELIMITER", .singleton o.sortDelimiter),
    ("QUERY_SORT_DESCENDING_PREFIX", .singleton o.descendingMark),
    ("QUERY_MATCH_TIMEOUT_MS", Text.decimal o.matchBudget),
    ("QUERY_MAX_PAGE_LIMIT", Text.decimal o.maxPageLimit.toNat)].lookup name

lemma holds_toEnvironment (o : Options) : o.toEnvironment.Holds o :=
  ⟨rfl, rfl, rfl, rfl, rfl, rfl, rfl, rfl⟩

def foreignWords : Options where
  filterKey := "wähle"
  groupKeyword := " gruppe"
  pageKey := "seite$"
  valueDelimiter := '&'
  sortDelimiter := '\u3000'
  descendingMark := '↓'
  matchBudget := Text.word64Top
  maxPageLimit := 1

def sparse : Environment := fun name =>
  [("QUERY_PAGE_KEY", ""), ("QUERY_SORT_DELIMITER", ";"), ("QUERY_MAX_PAGE_LIMIT", "+7")].lookup
    name

theorem ofEnvironment_holds_foreignWords :
    foreignWords.validate = .ok () ∧ 1 ≤ foreignWords.maxPageLimit ∧
    ofEnvironment foreignWords.toEnvironment = .ok foreignWords ∧
    (let o : Options := { standard with sortDelimiter := ';', maxPageLimit := 7 }
    ofEnvironment sparse = .ok o ∧ sparse.IsUnset "QUERY_PAGE_KEY" ∧ sparse.Gives o ∧
    o.validate = .ok () ∧ SortParser.ofOptions o = .ok ⟨';', '-'⟩ ∧
    ∀ e, FilterParser.ofOptions o = .error e ↔
      e = .invalidOptions .badPattern ∧ (FilterGrammar.pattern o).fits = false) := by
  have hvalid : foreignWords.validate = .ok () := rfl
  have hlimit : 1 ≤ foreignWords.maxPageLimit := by decide
  have hread := (ofEnvironment_holds foreignWords.toEnvironment).1 foreignWords
    (holds_toEnvironment foreignWords) hvalid hlimit (Nat.le_refl _)
  refine ⟨hvalid, hlimit, hread, ?_⟩
  intro o
  have ho : ofEnvironment sparse = .ok o := rfl
  obtain ⟨-, hgives, hparsers⟩ := ofEnvironment_holds sparse
  obtain ⟨hsets, hv, -⟩ := (hgives o).mp ho
  obtain ⟨hfilter, -, hsort⟩ := hparsers o ho
  exact ⟨ho, .inr rfl, hsets, hv, hsort, hfilter⟩

end Options

end BracketQuery
