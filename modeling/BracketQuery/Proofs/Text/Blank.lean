import BracketQuery.Text.Blank
import Mathlib.Tactic.Lemma

/-! Texts that trimming leaves as they are, and what it leaves of the others. -/

namespace BracketQuery.Text

lemma isBlank_eq_false {c : Char} (hl : 0x20 < c.toNat) (hr : c.toNat < 0x7F) :
    isBlank c = false := by
  simp [isBlank, blanks, CharSet.contains]
  omega

lemma bounds_of_isAlpha {c : Char} (h : c.isAlpha = true) :
    (65 ≤ c.toNat ∧ c.toNat ≤ 90) ∨ (97 ≤ c.toNat ∧ c.toNat ≤ 122) := by
  have hval : (decide ('A'.val ≤ c.val ∧ c.val ≤ 'Z'.val) ||
      (decide ('a'.val ≤ c.val) && decide (c.val ≤ 'z'.val))) = true := h
  simpa [UInt32.le_iff_toNat_le] using hval

lemma dropWhile_of_head {s : List Char} (h : ∀ c ∈ s.head?, isBlank c = false) :
    s.dropWhile isBlank = s := by
  cases s with
  | nil => rfl
  | cons c s => simp [h c (by simp)]

lemma trim_eq_self {s : List Char} (hl : ∀ c ∈ s.head?, isBlank c = false)
    (hr : ∀ c ∈ s.getLast?, isBlank c = false) : trim s = s := by
  rw [trim, trimStart, dropWhile_of_head hl, trimEnd, dropWhile_of_head (by simpa using hr),
    List.reverse_reverse]

lemma not_isBlank_of_dropWhile {s : List Char} (h : s.dropWhile isBlank = s) :
    ∀ c ∈ s.head?, isBlank c = false := by
  intro c hc
  have hhead := List.head?_dropWhile_not isBlank s
  rwa [h, hc] at hhead

lemma trimEnd_sublist (s : List Char) : (trimEnd s).Sublist s := by
  simpa [trimEnd] using (List.dropWhile_sublist isBlank (l := s.reverse)).reverse

lemma not_isBlank_of_trim {s : List Char} (h : trim s = s) :
    (∀ c ∈ s.head?, isBlank c = false) ∧ ∀ c ∈ s.getLast?, isBlank c = false := by
  have hstart : trimStart s = s := by
    refine (List.dropWhile_sublist isBlank).eq_of_length_le ?_
    calc s.length = (trimEnd (trimStart s)).length := by rw [← trim, h]
      _ ≤ (trimStart s).length := (trimEnd_sublist _).length_le
  rw [trim, hstart] at h
  refine ⟨not_isBlank_of_dropWhile hstart, ?_⟩
  rw [← List.head?_reverse]
  exact not_isBlank_of_dropWhile (List.reverse_eq_iff.mp h)

lemma trimEnd_append {s t : List Char} (h : ∀ c ∈ s.getLast?, isBlank c = false) :
    trimEnd (s ++ t) = s ++ trimEnd t := by
  have hlast : s.reverse.dropWhile isBlank = s.reverse := dropWhile_of_head (by simpa using h)
  rw [trimEnd, trimEnd, List.reverse_append, List.dropWhile_append, hlast]
  split
  · next he => rw [List.isEmpty_iff.mp he, List.reverse_reverse, List.reverse_nil, List.append_nil]
  · rw [List.reverse_append, List.reverse_reverse]

lemma trim_append {s t : List Char} (hl : ∃ c ∈ s.head?, isBlank c = false)
    (hr : ∀ c ∈ s.getLast?, isBlank c = false) : trim (s ++ t) = s ++ trimEnd t := by
  obtain ⟨c, hc, hb⟩ := hl
  obtain ⟨r, rfl⟩ := List.head?_eq_some_iff.mp hc
  have hstart : trimStart (c :: r ++ t) = c :: r ++ t := by
    apply dropWhile_of_head
    rintro d ⟨⟩
    exact hb
  rw [trim, hstart, trimEnd_append hr]

lemma trim_sublist (s : List Char) : (trim s).Sublist s :=
  (trimEnd_sublist _).trans (List.dropWhile_sublist isBlank)

lemma trim_trim (s : List Char) : trim (trim s) = trim s := by
  refine trim_eq_self (fun c hc => ?_) fun c hc => ?_
  · have hprefix : trim s <+: trimStart s := by
      rw [← List.reverse_suffix, trim, trimEnd, List.reverse_reverse]
      exact List.dropWhile_suffix isBlank
    obtain ⟨t, ht⟩ := hprefix
    have hhead : c ∈ (trimStart s).head? := by
      rw [← ht, List.head?_append, hc]
      rfl
    have hnot := List.head?_dropWhile_not isBlank s
    rwa [show s.dropWhile isBlank = trimStart s from rfl, hhead] at hnot
  · rw [trim, trimEnd, List.getLast?_reverse] at hc
    have hnot := List.head?_dropWhile_not isBlank (trimStart s).reverse
    rwa [hc] at hnot

lemma trim_of_forall {s : List Char} (h : ∀ c ∈ s, isBlank c = false) : trim s = s :=
  trim_eq_self (fun c hc => h c (List.mem_of_mem_head? hc))
    fun c hc => h c (List.mem_of_mem_getLast? hc)

lemma trimmed_eq_self_iff {s : String} : trimmed s = s ↔ trim s.toList = s.toList := by
  rw [trimmed, ← String.toList_inj, String.toList_ofList]

lemma forall_isBlank_of_trim {s : List Char} (h : ∀ c ∈ trim s, isBlank c) : ∀ c ∈ s, isBlank c := by
  have hstart : ∀ c ∈ trimStart s, isBlank c := by
    intro c hc
    rw [← List.mem_reverse, ← List.takeWhile_append_dropWhile (p := isBlank)
      (l := (trimStart s).reverse), List.mem_append] at hc
    exact hc.elim isBlank_of_mem_takeWhile fun hd => h c (List.mem_reverse.mpr hd)
  intro c hc
  rw [← List.takeWhile_append_dropWhile (p := isBlank) (l := s), List.mem_append] at hc
  exact hc.elim isBlank_of_mem_takeWhile (hstart c)

lemma not_isBlankString_trimmed {s : String} (h : trimmed s ≠ "") :
    isBlankString (trimmed s) = false := by
  rw [Bool.eq_false_iff]
  intro hb
  apply h
  rw [trimmed_eq_empty_iff]
  rw [isBlankString, trimmed, String.toList_ofList] at hb
  exact List.all_eq_true.mpr (forall_isBlank_of_trim (List.all_eq_true.mp hb))

end BracketQuery.Text
