import BracketQuery.Proofs.Text.CaseFolding

/-! Words of letters from a to z, spelled in other cases. Of all characters that differ from such a
letter only in case, the long s alone does not have it as its lower case: it is lower case itself. -/

namespace BracketQuery.Text

lemma eq_ofNat_of_isLower {c : Char} (h : c.isLower = true) : ∃ n < 26, c = Char.ofNat (97 + n) := by
  have hc : 97 ≤ c.toNat ∧ c.toNat ≤ 122 := by
    change (decide ('a'.val ≤ c.val) && decide (c.val ≤ 'z'.val)) = true at h
    simpa [UInt32.le_iff_toNat_le] using h
  refine ⟨c.toNat - 97, by omega, ?_⟩
  rw [Nat.add_sub_cancel' hc.1, Char.ofNat_toNat]

lemma lowerChar_of_contains_foldCase {c d : Char} (hc : c.isLower = true)
    (h : (CharSet.single c).foldCase.contains d = true) (hd : d ≠ 'ſ') : lowerChar d = c := by
  have hranges : ∀ n < 26, ∀ r ∈ (CharSet.single (Char.ofNat (97 + n))).foldCase.ranges,
      r.1 = r.2 ∧ (Char.ofNat r.1 = 'ſ' ∨ lowerChar (Char.ofNat r.1) = Char.ofNat (97 + n)) := by
    decide +kernel
  obtain ⟨n, hn, rfl⟩ := eq_ofNat_of_isLower hc
  obtain ⟨r, hr, hmem⟩ := List.any_eq_true.mp h
  obtain ⟨hsingle, hcase⟩ := hranges n hn r hr
  simp only [Bool.and_eq_true, decide_eq_true_eq] at hmem
  have hcode : r.1 = d.toNat := by omega
  rw [hcode, Char.ofNat_toNat] at hcase
  exact hcase.resolve_left hd

lemma map_lowerChar_of_foldsTo {w x : List Char} (hw : ∀ c ∈ w, c.isLower = true)
    (h : foldsTo w x = true) (hx : 'ſ' ∉ x) : x.map lowerChar = w := by
  induction w generalizing x with
  | nil => rw [eq_nil_of_foldsTo h, List.map_nil]
  | cons c w ih =>
    obtain ⟨d, r, rfl, hd, hr⟩ := foldsTo_cons_left h
    rw [List.mem_cons, not_or] at hx
    rw [List.map_cons, lowerChar_of_contains_foldCase (hw c (by simp)) hd (Ne.symm hx.1),
      ih (fun e he => hw e (by simp [he])) hr hx.2]

lemma longS_not_mem {w : List Char} (hw : ∀ c ∈ w, c.isLower = true) : 'ſ' ∉ w := by
  intro h
  have hlower := hw _ h
  revert hlower
  decide

lemma spells_congr {s t : String} (h : s.toList.map lowerChar = t.toList.map lowerChar) (w : String) :
    spells s w = spells t w := by
  rw [spells, spells, h]

/-- What a table has for a token; the operators, the conjunctions and the page properties are looked
up this way. -/
def lookUp {α : Type} (table : List (String × α)) (t : String) : Option α :=
  (table.find? fun p => spells t p.1).map Prod.snd

lemma lookUp_congr {α : Type} {s t : String} (h : s.toList.map lowerChar = t.toList.map lowerChar)
    (table : List (String × α)) : lookUp table s = lookUp table t := by
  have hsame : (fun p : String × α => spells s p.1) = fun p => spells t p.1 :=
    funext fun p => spells_congr h p.1
  rw [lookUp, lookUp, hsame]

lemma not_spells_of_longS {t w : String} (ht : 'ſ' ∈ t.toList) (hw : 'ſ' ∉ w.toList) :
    spells t w = false := by
  rw [spells, beq_eq_false_iff_ne]
  intro he
  apply hw
  rw [← he]
  exact List.mem_map.mpr ⟨'ſ', ht, by decide⟩

lemma toNat_toLower (c : Char) :
    c.toLower.toNat = if 65 ≤ c.toNat ∧ c.toNat ≤ 90 then c.toNat + 32 else c.toNat := by
  have hbounds : (c.val ≥ 'A'.val ∧ c.val ≤ 'Z'.val) ↔ 65 ≤ c.toNat ∧ c.toNat ≤ 90 := by
    simp [UInt32.le_iff_toNat_le]
  unfold Char.toLower
  split
  · next h =>
    have hc := hbounds.mp h
    rw [if_pos hc]
    change (c.val + ('a'.val - 'A'.val)).toNat = c.toNat + 32
    rw [UInt32.toNat_add]
    exact Nat.mod_eq_of_lt (show c.toNat + 32 < 2 ^ 32 by omega)
  · next h => rw [if_neg fun hc => h (hbounds.mpr hc)]

lemma contains_foldCase_of_toLower {c d : Char} (h : c.toLower = d.toLower) :
    (CharSet.single c).foldCase.contains d = true := by
  have hletters : ∀ n < 26,
      (CharSet.single (Char.ofNat (65 + n))).foldCase.contains (Char.ofNat (97 + n)) = true ∧
      (CharSet.single (Char.ofNat (97 + n))).foldCase.contains (Char.ofNat (65 + n)) = true := by
    decide +kernel
  have hcode := congrArg Char.toNat h
  rw [toNat_toLower, toNat_toLower] at hcode
  -- the letters are the same, or one is in upper case and the other one is its lower case
  have hcases : c.toNat = d.toNat ∨ ∃ n < 26, (c.toNat = 65 + n ∧ d.toNat = 97 + n) ∨
      (c.toNat = 97 + n ∧ d.toNat = 65 + n) := by
    split at hcode <;> split at hcode
    · exact .inl (by omega)
    · exact .inr ⟨c.toNat - 65, by omega, .inl ⟨by omega, by omega⟩⟩
    · exact .inr ⟨d.toNat - 65, by omega, .inr ⟨by omega, by omega⟩⟩
    · exact .inl hcode
  rw [← Char.ofNat_toNat c, ← Char.ofNat_toNat d]
  rcases hcases with he | ⟨n, hn, ⟨hc, hd⟩ | ⟨hc, hd⟩⟩
  · rw [he]
    exact CharSet.contains_foldCase_self _
  · rw [hc, hd]
    exact (hletters n hn).1
  · rw [hc, hd]
    exact (hletters n hn).2

lemma foldsTo_of_map_toLower {s t : List Char} (h : s.map Char.toLower = t.map Char.toLower) :
    foldsTo s t = true := by
  induction s generalizing t with
  | nil =>
    rw [List.map_eq_nil_iff.mp h.symm]
    rfl
  | cons c s ih =>
    cases t with
    | nil => cases h
    | cons d t =>
      obtain ⟨hc, hs⟩ := List.cons.inj h
      rw [foldsTo, contains_foldCase_of_toLower hc, ih hs]
      rfl

lemma map_lowerChar_of_eqIgnoreAsciiCase {w t : String} (hw : ∀ c ∈ w.toList, c.isLower = true)
    (h : eqIgnoreAsciiCase w t = true) : t.toList.map lowerChar = w.toList := by
  have hmap : w.toList.map Char.toLower = t.toList.map Char.toLower := beq_iff_eq.mp h
  refine map_lowerChar_of_foldsTo hw (foldsTo_of_map_toLower hmap) fun ht => ?_
  have hmem : 'ſ' ∈ t.toList.map Char.toLower := List.mem_map.mpr ⟨'ſ', ht, by decide⟩
  rw [← hmap] at hmem
  obtain ⟨c, hc, he⟩ := List.mem_map.mp hmem
  have hcode := congrArg Char.toNat he
  obtain ⟨n, hn, rfl⟩ := eq_ofNat_of_isLower (hw c hc)
  have hsmall : ∀ n < 26, (Char.ofNat (97 + n)).toLower.toNat ≠ 'ſ'.toNat := by decide
  exact hsmall n hn hcode

end BracketQuery.Text
