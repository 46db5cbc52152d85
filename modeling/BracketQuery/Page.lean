import BracketQuery.Grammar.Page
import BracketQuery.Ordered
import BracketQuery.Text.Numeral

namespace BracketQuery

/-- A window of a list, by offset and limit. Cursors are passed through untouched. -/
structure Page where
  after : Option String
  before : Option String
  offset : UInt32
  limit : UInt32
deriving DecidableEq, Repr

namespace Page

def withLimit (limit : UInt32) : Page := ⟨none, none, 0, limit⟩

def standard : Page := withLimit Options.largestLimit

instance : Inhabited Page := ⟨standard⟩

def apply {α : Type} (p : Page) (items : List α) : List α :=
  (items.drop p.offset.toNat).take p.limit.toNat

end Page

inductive PageProperty
  | after
  | before
  | limit
  | offset
deriving DecidableEq, Repr

namespace PageProperty

def tokens : List (String × PageProperty) :=
  [("after", after), ("cursor", after), ("before", before), ("limit", limit), ("offset", offset)]

def ofToken? (token : String) : Option PageProperty :=
  (tokens.find? fun p => Text.spells token p.1).map Prod.snd

end PageProperty

structure PageParser where
  grammar : Grammar
  maxLimit : UInt32

namespace PageParser

def ofOptions (o : Options) : Except QueryError PageParser := do
  o.validate
  let g ← PageGrammar.ofOptions o
  return ⟨g, max o.maxPageLimit 1⟩

def cursor? (value : String) : Option String :=
  let s := Text.trimmed value
  if s = "" then none else some s

def offsetOf (value : String) : UInt32 := (Text.readWord32? (Text.trimmed value)).getD 0

/-- A limit from one to the largest; anything else is the largest. -/
def limitOf (p : PageParser) (value : String) : UInt32 :=
  match Text.readWord32? (Text.trimmed value) with
  | some n => if 1 ≤ n && n ≤ p.maxLimit then n else p.maxLimit
  | none => p.maxLimit

def set (p : PageParser) (page : Page) (property : PageProperty) (value : String) : Page :=
  match property with
  | .after => { page with after := cursor? value }
  | .before => { page with before := cursor? value }
  | .offset => { page with offset := offsetOf value }
  | .limit => { page with limit := p.limitOf value }

def propertyOf (m : GrammarMatch) : Option PageProperty :=
  (m.get PageGrammar.property).bind PageProperty.ofToken?

/-- The window of a query. Of the pairs for one property the last one counts. -/
def parse (p : PageParser) (raw : String) : Page :=
  (groupBy propertyOf (p.grammar.scan raw)).foldl
    (fun page g =>
      match g.2.getLast?.bind fun m => m.get PageGrammar.value with
      | some value => p.set page g.1 value
      | none => page)
    (.withLimit p.maxLimit)

end PageParser

end BracketQuery
