import BracketQuery.Text.CharSet

namespace BracketQuery.Text

def blanks : CharSet :=
  ⟨[(0x9, 0xD), (0x20, 0x20), (0x85, 0x85), (0xA0, 0xA0), (0x1680, 0x1680), (0x2000, 0x200A),
    (0x2028, 0x2029), (0x202F, 0x202F), (0x205F, 0x205F), (0x3000, 0x3000)]⟩

def isBlank (c : Char) : Bool := blanks.contains c

def trimStart (s : List Char) : List Char := s.dropWhile isBlank

def trimEnd (s : List Char) : List Char := (s.reverse.dropWhile isBlank).reverse

def trim (s : List Char) : List Char := trimEnd (trimStart s)

def trimmed (s : String) : String := String.ofList (trim s.toList)

def isBlankString (s : String) : Bool := s.toList.all isBlank

@[simp] theorem trimStart_nil : trimStart [] = [] := rfl

theorem trimStart_eq_nil_iff {s : List Char} : trimStart s = [] ↔ ∀ c ∈ s, isBlank c := by
  induction s with
  | nil => simp
  | cons c s ih =>
    by_cases h : isBlank c <;> simp_all [trimStart]

theorem isBlank_of_mem_takeWhile {s : List Char} {c : Char} (h : c ∈ s.takeWhile isBlank) :
    isBlank c := by
  induction s with
  | nil => simp at h
  | cons d s ih => by_cases hd : isBlank d <;> simp_all; grind

theorem trim_eq_nil_iff {s : List Char} : trim s = [] ↔ ∀ c ∈ s, isBlank c := by
  have h : trim s = [] ↔ ∀ c ∈ trimStart s, isBlank c := by
    rw [trim, trimEnd, List.reverse_eq_nil_iff]
    exact trimStart_eq_nil_iff.trans (by simp only [List.mem_reverse])
  rw [h]
  refine ⟨fun hs c hc => ?_, fun hs c hc => hs c ((List.dropWhile_sublist _).subset hc)⟩
  rw [← List.takeWhile_append_dropWhile (p := isBlank) (l := s), List.mem_append] at hc
  exact hc.elim isBlank_of_mem_takeWhile (hs c)

theorem trimmed_eq_empty_iff {s : String} : trimmed s = "" ↔ isBlankString s := by
  rw [trimmed, ← String.toList_inj, String.toList_ofList, isBlankString, List.all_eq_true]
  exact trim_eq_nil_iff

end BracketQuery.Text
