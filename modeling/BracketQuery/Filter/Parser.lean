import BracketQuery.Filter.Assembly

namespace BracketQuery

structure FilterParser where
  grammar : Grammar
  valueDelimiter : Char

namespace FilterParser

def ofOptions (o : Options) : Except QueryError FilterParser := do
  o.validate
  let g ← FilterGrammar.ofOptions o
  return ⟨g, o.valueDelimiter⟩

def captures (p : FilterParser) (raw : String) : List Capture :=
  (p.grammar.scan raw).filterMap (Capture.ofMatch? p.valueDelimiter)

def parse (p : FilterParser) (raw : String) : Except QueryError (Option Group) :=
  assemble (p.captures raw)

end FilterParser

end BracketQuery
