import BracketQuery.Options
import BracketQuery.Pattern.Matching
import BracketQuery.Pattern.Reader
import BracketQuery.Percent

namespace BracketQuery

structure Grammar where
  text : String
  pattern : Pattern
  budget : Nat

structure GrammarMatch where
  captures : List (String × String)
deriving DecidableEq, Repr, Inhabited

namespace GrammarMatch

def get (m : GrammarMatch) (name : String) : Option String := m.captures.lookup name

def getNonEmpty (m : GrammarMatch) (name : String) : Option String :=
  (m.get name).filter (· != "")

end GrammarMatch

namespace Grammar

def ofPattern (text : String) (pattern : Pattern) (budget : Nat) : Except QueryError Grammar :=
  if pattern.fits then .ok ⟨text, pattern, budget⟩ else .error (.invalidOptions .badPattern)

def ofText (text : String) (budget : Nat) : Except QueryError Grammar :=
  match Pattern.read? true text with
  | some p => .ok ⟨text, p, budget⟩
  | none => .error (.invalidOptions .badPattern)

def strip (s : List Char) : List Char :=
  match Text.trim s with
  | '?' :: r => r
  | r => r

/-- All matches in a text that is decoded already. -/
def matchesIn (g : Grammar) (s : List Char) : List GrammarMatch :=
  (g.pattern.search s).map fun spans =>
    ⟨spans.map fun x => (x.name, String.ofList (x.text s))⟩

/-- The matches in a query; there are none if there is no time for them. -/
def scan (g : Grammar) (input : String) : List GrammarMatch :=
  let s := strip input.toList
  if s.isEmpty || g.budget = 0 then [] else g.matchesIn (Percent.decode s)

def escapeText (s : String) : String :=
  String.ofList (s.toList.flatMap fun c => if PatternReader.isMeta c then ['\\', c] else [c])

end Grammar

end BracketQuery
