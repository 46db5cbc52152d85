import BracketQuery.Proofs.Page

/-! The matches of a query, each overwriting one property of the window, from left to right. -/

namespace BracketQuery

namespace Page

def limitWithin (most : UInt32) (number : Option UInt32) : UInt32 :=
  (number.filter fun n => 1 ≤ n && n ≤ most).getD most

/-- What a match makes of a window. A cursor that is blank is none, and an offset that is no number is
zero. -/
def overwrite (most : UInt32) (page : Page) (m : GrammarMatch) : Page :=
  match (m.get PageGrammar.property).bind PageProperty.ofToken?, m.get PageGrammar.value with
  | some .after, some value =>
    { page with after := if Text.isBlankString value then none else some (Text.trimmed value) }
  | some .before, some value =>
    { page with before := if Text.isBlankString value then none else some (Text.trimmed value) }
  | some .offset, some value =>
    { page with offset := (Text.readWord32? (Text.trimmed value)).getD 0 }
  | some .limit, some value =>
    { page with limit := limitWithin most (Text.readWord32? (Text.trimmed value)) }
  | _, _ => page

def HasLimit (most : UInt32) (page : Page) : Prop := 1 ≤ page.limit ∧ page.limit ≤ most

variable {most : UInt32} {page : Page}

lemma bounds_limitWithin (hmost : 1 ≤ most) (number : Option UInt32) :
    1 ≤ limitWithin most number ∧ limitWithin most number ≤ most := by
  unfold limitWithin
  cases number with
  | none => exact ⟨hmost, UInt32.le_refl most⟩
  | some n =>
    rw [Option.filter_some]
    split
    · next hn =>
      rw [Bool.and_eq_true, decide_eq_true_eq, decide_eq_true_eq] at hn
      exact hn
    · exact ⟨hmost, UInt32.le_refl most⟩

lemma HasLimit.overwrite (hmost : 1 ≤ most) (h : page.HasLimit most) (m : GrammarMatch) :
    (page.overwrite most m).HasLimit most := by
  unfold Page.overwrite
  split
  case h_4 value _ _ =>
    have hlimit := bounds_limitWithin hmost (Text.readWord32? (Text.trimmed value))
    exact ⟨hlimit.1, hlimit.2⟩
  -- no other property changes the limit
  all_goals exact ⟨h.1, h.2⟩

lemma HasLimit.foldl_overwrite (hmost : 1 ≤ most) (ms : List GrammarMatch)
    (h : page.HasLimit most) : (ms.foldl (Page.overwrite most) page).HasLimit most := by
  induction ms generalizing page with
  | nil => exact h
  | cons m ms ih => exact ih (h.overwrite hmost m)

end Page

namespace PagePair

variable {o : Options} {g : Grammar}

lemma exists_scan_eq (hv : o.IsValid) (hg : PageGrammar.ofOptions o = .ok g) (input : String) :
    ∃ qs : List PagePair, g.scan input = qs.map toMatch := by
  by_cases hb : o.matchBudget = 0
  · refine ⟨[], ?_⟩
    rw [Grammar.eq_of_ofPattern hg, Grammar.scan, hb]
    simp
  · exact ⟨_, by rw [scan_eq hv hg hb, ← List.map_filterMap]⟩

end PagePair

namespace PageParser

variable {o : Options} {p : PageParser}

lemma cursor?_eq (value : String) :
    cursor? value = if Text.isBlankString value then none else some (Text.trimmed value) := by
  simp only [cursor?, Text.trimmed_eq_empty_iff]

lemma limitOf_eq (p : PageParser) (value : String) :
    p.limitOf value = Page.limitWithin p.maxLimit (Text.readWord32? (Text.trimmed value)) := by
  rw [limitOf, Page.limitWithin]
  cases Text.readWord32? (Text.trimmed value) with
  | none => rfl
  | some n =>
    simp only [Option.filter_some]
    split <;> rfl

lemma one_le_max (n : UInt32) : 1 ≤ max n 1 := by
  change 1 ≤ if n ≤ 1 then 1 else n
  split
  · exact UInt32.le_refl 1
  · next h => exact UInt32.le_of_lt (UInt32.not_le.mp h)

lemma overwrite_toMatch (p : PageParser) (page : Page) (q : PagePair) :
    page.overwrite p.maxLimit q.toMatch = p.step page q := by
  obtain ⟨hproperty, hvalue⟩ := PagePair.get_toMatch q
  rw [Page.overwrite, hproperty, hvalue, Option.bind_some, step, setKeyed]
  cases PageProperty.ofToken? q.property with
  | none => rfl
  | some k =>
    cases k with
    | after => simp only [setPair, set, cursor?_eq]
    | before => simp only [setPair, set, cursor?_eq]
    | offset => rfl
    | limit => simp only [setPair, set, limitOf_eq]

/-- The window of a query is what its matches leave when each of them, from left to right, overwrites
the property that it names. Its limit is never zero, nor above the largest one. -/
theorem parse_eq_foldl_overwrite (hp : ofOptions o = .ok p) (raw : String) :
    let most := max o.maxPageLimit 1
    p.parse raw = (p.grammar.scan raw).foldl (Page.overwrite most) (.withLimit most) ∧
      1 ≤ (p.parse raw).limit ∧ (p.parse raw).limit ≤ most := by
  intro most
  obtain ⟨hv, hg, hmax⟩ := ofOptions_eq_ok hp
  obtain ⟨qs, hscan⟩ := PagePair.exists_scan_eq hv hg raw
  have hwalk : p.parse raw = (p.grammar.scan raw).foldl (Page.overwrite most) (.withLimit most) := by
    have hstep : (fun page q => Page.overwrite most page (PagePair.toMatch q)) = p.step := by
      funext page q
      rw [← p.overwrite_toMatch page q, hmax]
    rw [parse_eq hscan, hscan, List.foldl_map, hstep, hmax]
  have hstart : (Page.withLimit most).HasLimit most := ⟨one_le_max _, UInt32.le_refl most⟩
  rw [hwalk]
  exact ⟨rfl, hstart.foldl_overwrite (one_le_max _) _⟩

def atMostFifty : Options := { Options.standard with maxPageLimit := 50 }

/-- Two words for one cursor, of which the later one is blank; limits of which the later one is out
of range; offsets of which the later one is out of range; and a property that its long s spoils. -/
def repeated : List PagePair :=
  [⟨"after", "a"⟩, ⟨"limit", "7"⟩, ⟨"Cursor", " "⟩, ⟨"offset", "3"⟩, ⟨"LIMIT", "51"⟩,
    ⟨"before", " b "⟩, ⟨"offset", "4294967296"⟩, ⟨"offſet", "4"⟩]

def repeatedQuery : String :=
  "?page[after]=a&page[limit]=7&page[Cursor]= &page[offset]=3&page[LIMIT]=51&page[before]= b " ++
    "&page[offset]=4294967296&page[offſet]=4"

theorem parse_eq_foldl_overwrite_repeated :
    ∃ p, ofOptions atMostFifty = .ok p ∧
      p.grammar.scan repeatedQuery = repeated.map PagePair.toMatch ∧
      p.parse repeatedQuery =
        (repeated.map PagePair.toMatch).foldl (Page.overwrite 50) (.withLimit 50) ∧
      p.parse repeatedQuery = ⟨none, some "b", 0, 50⟩ := by
  have hv : atMostFifty.IsValid := ⟨by decide +kernel, by decide⟩
  obtain ⟨g, hg⟩ : ∃ g, PageGrammar.ofOptions atMostFifty = .ok g :=
    PagePair.exists_ofOptions_standard
  obtain ⟨p, hp⟩ := exists_ofOptions hv hg
  have hscan : p.grammar.scan repeatedQuery = repeated.map PagePair.toMatch := by
    rw [PagePair.scan_eq hv (ofOptions_eq_ok hp).2.1 (by decide)]
    decide +kernel
  have hwalk : p.parse repeatedQuery =
      (p.grammar.scan repeatedQuery).foldl (Page.overwrite 50) (.withLimit 50) :=
    (parse_eq_foldl_overwrite hp repeatedQuery).1
  rw [hscan] at hwalk
  exact ⟨p, hp, hscan, hwalk, hwalk.trans (by decide +kernel)⟩

end PageParser

end BracketQuery
