import BracketQuery.QueryError
import BracketQuery.Text.Blank

namespace BracketQuery

theorem bind_eq_ok {α β ε : Type} {x : Except ε α} {f : α → Except ε β} {b : β} :
    (x >>= f) = .ok b ↔ ∃ a, x = .ok a ∧ f a = .ok b := by
  cases x <;> simp [bind, Except.bind]

/--
The configurable parts of the filter, page and sort grammars. `matchBudget` is the time in
milliseconds that matching may take.
-/
structure Options where
  filterKey : String
  groupKeyword : String
  pageKey : String
  valueDelimiter : Char
  sortDelimiter : Char
  descendingMark : Char
  matchBudget : Nat
  maxPageLimit : UInt32
deriving DecidableEq, Repr

namespace Options

def largestLimit : UInt32 := 0xFFFFFFFF

def standard : Options where
  filterKey := "filter"
  groupKeyword := "group"
  pageKey := "page"
  valueDelimiter := ','
  sortDelimiter := ','
  descendingMark := '-'
  matchBudget := 150
  maxPageLimit := largestLimit

instance : Inhabited Options := ⟨standard⟩

def isGrammarChar (c : Char) : Bool := c == '[' || c == ']' || c == '=' || c == '&'

def checkKey (field key : String) : Except QueryError Unit :=
  if Text.isBlankString key then .error (.invalidOptions (.blankKey field))
  else if key.toList.any isGrammarChar then .error (.invalidOptions (.grammarCharacter field key))
  else .ok ()

def validate (o : Options) : Except QueryError Unit := do
  checkKey "filter_key" o.filterKey
  checkKey "group_keyword" o.groupKeyword
  checkKey "page_key" o.pageKey
  if o.descendingMark = o.sortDelimiter then .error (.invalidOptions .sameSortCharacter)

def IsValid (o : Options) : Prop :=
  (∀ key ∈ [o.filterKey, o.groupKeyword, o.pageKey],
    Text.isBlankString key = false ∧ key.toList.any isGrammarChar = false) ∧
  o.descendingMark ≠ o.sortDelimiter

theorem checkKey_eq_ok {field key : String} :
    checkKey field key = .ok () ↔
      Text.isBlankString key = false ∧ key.toList.any isGrammarChar = false := by
  unfold checkKey
  cases Text.isBlankString key <;> cases key.toList.any isGrammarChar <;> simp

theorem validate_eq_ok {o : Options} : o.validate = .ok () ↔ o.IsValid := by
  have h (k : Except QueryError Unit) (f : Unit → Except QueryError Unit) :
      (k >>= f) = .ok () ↔ k = .ok () ∧ f () = .ok () := by
    cases k with
    | error e => simp [bind, Except.bind]
    | ok u => simp [bind, Except.bind]
  simp only [validate, h, checkKey_eq_ok, IsValid, List.forall_mem_cons, List.not_mem_nil,
    false_imp_iff, implies_true, and_true, ne_eq, and_assoc]
  by_cases hd : o.descendingMark = o.sortDelimiter <;> simp [hd, pure, Except.pure]

theorem IsValid.ne_empty {o : Options} (hv : o.IsValid) {key : String}
    (hk : key ∈ [o.filterKey, o.groupKeyword, o.pageKey]) : key ≠ "" := by
  rintro rfl
  have hblank := (hv.1 "" hk).1
  cases hblank

end Options

end BracketQuery
