import BracketQuery.Proofs.Text.Blank
import BracketQuery.Text.Numeral

/-! A number is read back from its decimal digits. -/

namespace BracketQuery.Text

lemma isDigit_of_mem_decimal {n : Nat} {c : Char} (h : c ∈ (decimal n).toList) :
    c.isDigit = true := by
  rw [decimal, String.toList_ofList] at h
  exact Nat.isDigit_of_mem_toDigits (by decide) (by decide) h

lemma isDigit_iff {c : Char} : c.isDigit = true ↔ 48 ≤ c.toNat ∧ c.toNat ≤ 57 := by
  simp [Char.isDigit, UInt32.le_iff_toNat_le]

structure IsDigits (ds : List Char) : Prop where
  ne_nil : ds ≠ []
  isDigit : ∀ c ∈ ds, c.isDigit = true

inductive IsNumeral : Int → List Char → Prop
  | plain {ds : List Char} (h : IsDigits ds) : IsNumeral (digitsValue ds) ds
  | plus {ds : List Char} (h : IsDigits ds) : IsNumeral (digitsValue ds) ('+' :: ds)
  | minus {ds : List Char} (h : IsDigits ds) : IsNumeral (-digitsValue ds) ('-' :: ds)

lemma IsDigits.not_isBlank {ds : List Char} (h : IsDigits ds) : ∀ c ∈ ds, isBlank c = false := by
  intro c hc
  obtain ⟨hl, hr⟩ := isDigit_iff.mp (h.isDigit c hc)
  exact isBlank_eq_false (by omega) (by omega)

lemma IsNumeral.trim_eq {n : Int} {s : List Char} (h : IsNumeral n s) : trim s = s := by
  refine trim_of_forall ?_
  cases h with
  | plain h => exact h.not_isBlank
  | plus h => exact List.forall_mem_cons.mpr ⟨by decide, h.not_isBlank⟩
  | minus h => exact List.forall_mem_cons.mpr ⟨by decide, h.not_isBlank⟩

lemma isDigits_decimal (n : Nat) : IsDigits (decimal n).toList := by
  refine ⟨?_, fun c hc => isDigit_of_mem_decimal hc⟩
  rw [decimal, String.toList_ofList]
  exact Nat.toDigits_ne_nil

lemma digitsValue_decimal (n : Nat) : digitsValue (decimal n).toList = n := by
  rw [decimal, String.toList_ofList]
  exact Nat.ofDigitChars_ten_toDigits

lemma readNat?_decimal {bound n : Nat} (h : n ≤ bound) :
    readNat? bound (decimal n).toList = some n := by
  have hds := isDigits_decimal n
  have hdigits := List.all_eq_true.mpr hds.isDigit
  have hvalue := digitsValue_decimal n
  unfold readNat?
  split
  · next r hr =>
    have hplus := List.all_eq_true.mp hdigits '+' (by simp [hr])
    cases hplus
  · simp [hds.ne_nil, hdigits, hvalue, h]

lemma trimmed_decimal (n : Nat) : trimmed (decimal n) = decimal n := by
  rw [trimmed, trim_of_forall (isDigits_decimal n).not_isBlank, String.ofList_toList]

lemma readWord32?_decimal (n : UInt32) : readWord32? (decimal n.toNat) = some n := by
  have hle : n.toNat ≤ word32Top := Nat.le_of_lt_succ n.toNat_lt
  rw [readWord32?, readNat?_decimal hle, Option.map_some, UInt32.ofNat_toNat]

end BracketQuery.Text
