import BracketQuery.Text.Property.Categories
import BracketQuery.Text.Property.Flags
import BracketQuery.Text.Property.Scripts
import BracketQuery.Text.Property.ScriptExtensions
import BracketQuery.Text.Property.Ages
import BracketQuery.Text.Property.Breaks

namespace BracketQuery.Text.Property

/-- Property names are told apart without case, blanks, `_`, `-` and a leading `is`. -/
def normalize (name : List Char) : String :=
  let marked := (name.take 2).map Char.toLower == ['i', 's']
  let kept := ((if marked then name.drop 2 else name).filter fun c =>
    c.toNat < 0x80 && !(c == ' ' || c == '_' || c == '-')).map Char.toLower
  if marked && kept == ['c'] then "isc" else String.ofList kept

def unassigned : CharSet := (unionOf (categories.flatMap Coded.names) categories).complement

def composites : List (List String × List String) :=
  [ (["c", "other"], ["cc", "cf", "co"]),
    (["l", "letter"], ["lu", "ll", "lt", "lm", "lo"]),
    (["lc", "casedletter"], ["lu", "ll", "lt"]),
    (["m", "mark", "combiningmark"], ["mn", "mc", "me"]),
    (["n", "number"], ["nd", "nl", "no"]),
    (["p", "punctuation", "punct"], ["pc", "pd", "ps", "pe", "pi", "pf", "po"]),
    (["s", "symbol"], ["sm", "sc", "sk", "so"]),
    (["z", "separator"], ["zs", "zl", "zp"]) ]

def category? (name : String) : Option CharSet :=
  if name = "any" then some .all
  else if name = "ascii" then some (.range 0 0x7F)
  else if name = "assigned" then some unassigned.complement
  else if name = "cn" || name = "unassigned" then some unassigned
  else match composites.find? fun p => p.1.contains name with
    | some (names, parts) =>
      let s := unionOf parts categories
      some (if names.contains "c" then s.union unassigned else s)
    | none => find? name categories

/--
What a bare name stands for: a two-valued property, a general category or a script, in this order.
The names `cf`, `sc` and `lc` are categories.
-/
def named? (name : List Char) : Option CharSet :=
  let n := normalize name
  let flag := if n = "cf" || n = "sc" || n = "lc" then none else find? n flags
  flag <|> category? n <|> find? n scripts

/--
The characters of an edition of the character set: those that it and the editions before it
added.
-/
def ofEdition? (name : String) : Option CharSet :=
  (ages.findIdx? fun p => p.names.contains name).map fun i =>
    (ages.take (i + 1)).foldl (fun s p => s.union p.chars) .empty

def valued? (name value : List Char) : Option CharSet :=
  let n := normalize name
  let v := normalize value
  if n = "gc" || n = "generalcategory" then category? v
  else if n = "sc" || n = "script" then find? v scripts
  else if n = "scx" || n = "scriptextensions" then find? v scriptExtensions
  else if n = "age" then ofEdition? v
  else if n = "gcb" || n = "graphemeclusterbreak" then find? v graphemeBreaks
  else if n = "wb" || n = "wordbreak" then find? v wordBreaks
  else if n = "sb" || n = "sentencebreak" then find? v sentenceBreaks
  else none

end BracketQuery.Text.Property
