import BracketQuery.Expression
import BracketQuery.Filter.Parser
import BracketQuery.Page
import BracketQuery.Sort.Order

namespace BracketQuery

structure CollectionQuery where
  filter : Expression
  sort : List SortKey
  page : Page

namespace CollectionQuery

def ofParts (o : Options) (filter sort page : String) : Except QueryError CollectionQuery := do
  let filterParser ← FilterParser.ofOptions o
  let sortParser ← SortParser.ofOptions o
  let pageParser ← PageParser.ofOptions o
  let tree ← filterParser.parse filter
  let expression ← compileFilter .standard tree
  return ⟨expression, sortParser.parse sort, pageParser.parse page⟩

def apply (q : CollectionQuery) (entities : List Json.Value) : Option (List Json.Value) :=
  (sortEntities q.sort (q.filter.filter entities)).map q.page.apply

end CollectionQuery

end BracketQuery
