import BracketQuery.Text.Property
import BracketQuery.Text.Property.Additions

namespace BracketQuery.Text

def unprinted : CharSet :=
  (((Property.unionOf ["cc", "cf", "co", "zs", "zl", "zp"] Property.categories).union
    Property.unassigned).diff (Property.unionOf ["assigned"] Property.additions)).diff (.single ' ')

def attaching : CharSet :=
  (Property.unionOf ["graphemeextend"] Property.flags).union
    (Property.unionOf ["graphemeextend"] Property.additions)

/--
Characters that a quoted text shows by number: those without a print of their own, those that would
attach to the character before them, and those that a display may leave out.
-/
def unshown : CharSet :=
  (unprinted.union attaching).union
    (Property.unionOf ["defaultignorablecodepoint"] Property.flags)

def hexDigits (n : Nat) : List Char := Nat.toDigits 16 n

def quoteChar (c : Char) : List Char :=
  if c = '"' then ['\\', '"']
  else if c = '\\' then ['\\', '\\']
  else if c = '\n' then ['\\', 'n']
  else if c = '\r' then ['\\', 'r']
  else if c = '\t' then ['\\', 't']
  else if c = '\x00' then ['\\', '0']
  else if unshown.contains c then ['\\', 'u', '\x7b'] ++ hexDigits c.toNat ++ ['\x7d']
  else [c]

def quoted (s : String) : String :=
  String.ofList ('"' :: s.toList.flatMap quoteChar ++ ['"'])

def quotedList (ss : List String) : String := "[" ++ ", ".intercalate (ss.map quoted) ++ "]"

end BracketQuery.Text
