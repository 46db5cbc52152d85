import BracketQuery.Text.Property
import BracketQuery.Text.Property.Additions

namespace BracketQuery.Text

def alphabetic : CharSet := Property.unionOf ["alphabetic"] Property.flags

def wordChars : CharSet :=
  (alphabetic.union (Property.unionOf ["mn", "mc", "me", "nd", "pc"] Property.categories)).union
    (Property.unionOf ["joincontrol"] Property.flags)

/-- Letters of every script, those of the added characters too. -/
def letters : CharSet := alphabetic.union (Property.unionOf ["alphabetic"] Property.additions)

def numerals : CharSet :=
  (Property.unionOf ["nd", "nl", "no"] Property.categories).union
    (Property.unionOf ["number"] Property.additions)

def asciiWordChars : CharSet := ⟨[(0x30, 0x39), (0x41, 0x5A), (0x5F, 0x5F), (0x61, 0x7A)]⟩

end BracketQuery.Text
