namespace BracketQuery.Text

def hasInfix (part : List Char) : List Char → Bool
  | [] => part.isEmpty
  | c :: s => part.isPrefixOf (c :: s) || hasInfix part s

def order (s t : String) : Ordering := compare s.toList t.toList

end BracketQuery.Text
