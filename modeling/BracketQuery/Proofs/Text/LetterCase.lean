import BracketQuery.Proofs.Text.Numeral
import BracketQuery.Proofs.Text.Spelling
import BracketQuery.Proofs.Text.Split
import Mathlib.Data.List.Forall2

/-! Texts that differ only in the case of ASCII letters: so do their pieces, and they are the same
numeral or none. -/

namespace BracketQuery.Text

variable {s t : String}

def lowered (s : String) : List Char := s.toList.map Char.toLower

lemma eqIgnoreAsciiCase_iff : eqIgnoreAsciiCase s t = true ↔ lowered s = lowered t := beq_iff_eq

lemma eqIgnoreAsciiCase_congr (h : eqIgnoreAsciiCase s t = true) (u : String) :
    eqIgnoreAsciiCase u s = eqIgnoreAsciiCase u t :=
  congrArg (lowered u == ·) (eqIgnoreAsciiCase_iff.mp h)

abbrev SameButCase (xs ys : List String) : Prop :=
  List.Forall₂ (fun x y => eqIgnoreAsciiCase x y = true) xs ys

lemma sameButCase_iff {xs ys : List String} :
    SameButCase xs ys ↔ xs.map lowered = ys.map lowered := by
  rw [← List.forall₂_eq_eq_eq, List.forall₂_map_left_iff, List.forall₂_map_right_iff]
  simp only [SameButCase, eqIgnoreAsciiCase_iff]

lemma toLower_eq_iff {c d : Char} (hd : d.toNat < 65) : c.toLower = d ↔ c = d := by
  rw [← Char.toNat_inj, ← Char.toNat_inj, toNat_toLower]
  split <;> omega

lemma splitOn_map_toLower {d : Char} (hd : d.toNat < 65) (s : List Char) :
    splitOn d (s.map Char.toLower) = (splitOn d s).map (List.map Char.toLower) := by
  unfold splitOn
  induction s with
  | nil => rfl
  | cons c s ih =>
    have hc : (c.toLower == d) = (c == d) := by
      rw [Bool.eq_iff_iff, beq_iff_eq, beq_iff_eq, toLower_eq_iff hd]
    rw [List.map_cons, splitWhere, splitWhere, hc, ih]
    split
    · rfl
    · cases splitWhere (· == d) s <;> rfl

lemma map_lowered_pieces {d : Char} (hd : d.toNat < 65) (s : String) :
    (pieces d s).map lowered = splitOn d (lowered s) := by
  rw [lowered, splitOn_map_toLower hd, pieces, List.map_map]
  simp [lowered, Function.comp_def]

lemma sameButCase_pieces {d : Char} (hd : d.toNat < 65) (h : eqIgnoreAsciiCase s t = true) :
    SameButCase (pieces d s) (pieces d t) := by
  rw [sameButCase_iff, map_lowered_pieces hd, map_lowered_pieces hd, eqIgnoreAsciiCase_iff.mp h]

lemma SameButCase.filter_ne_empty {xs ys : List String} (h : SameButCase xs ys) :
    SameButCase (xs.filter (· != "")) (ys.filter (· != "")) := by
  have hempty (z : String) : (z != "") = (lowered z != []) := by
    rw [Bool.eq_iff_iff, bne_iff_ne, bne_iff_ne, lowered, ne_eq, ne_eq, List.map_eq_nil_iff,
      String.toList_eq_nil_iff]
  have hfilter (zs : List String) :
      (zs.filter (· != "")).map lowered = (zs.map lowered).filter (· != []) := by
    rw [List.filter_map, List.filter_congr fun z _ => hempty z]
    rfl
  rw [sameButCase_iff, hfilter, hfilter, sameButCase_iff.mp h]

lemma isDigit_toLower (c : Char) : c.toLower.isDigit = c.isDigit := by
  rw [Bool.eq_iff_iff, isDigit_iff, isDigit_iff, toNat_toLower]
  split <;> omega

lemma all_isDigit_map_toLower (ds : List Char) :
    (ds.map Char.toLower).all Char.isDigit = ds.all Char.isDigit := by
  rw [List.all_map]
  exact List.all_congr rfl fun c => isDigit_toLower c

lemma map_toLower_of_digits {ds : List Char} (h : ds.all Char.isDigit = true) :
    ds.map Char.toLower = ds := by
  have hself : ∀ c ∈ ds, c.toLower = c := by
    intro c hc
    have hbounds := isDigit_iff.mp (List.all_eq_true.mp h c hc)
    exact (toLower_eq_iff (by omega)).mpr rfl
  rw [List.map_congr_left hself, List.map_id']

lemma readNat?_map_toLower (bound : Nat) (s : List Char) :
    readNat? bound (s.map Char.toLower) = readNat? bound s := by
  have hplus {ds : List Char} (hd : ds.all Char.isDigit = false) :
      readNat? bound ('+' :: ds) = none := by
    simp [readNat?, hd]
  have hplain {c : Char} {ds : List Char} (hc : c ≠ '+') (hd : (c :: ds).all Char.isDigit = false) :
      readNat? bound (c :: ds) = none := by
    simp [readNat?, hc, hd]
  -- digits and the sign are the same in lower case, and with anything else there is no number
  cases s with
  | nil => rfl
  | cons c s =>
    by_cases hc : c = '+'
    · subst hc
      have hl : '+'.toLower = '+' := rfl
      rw [List.map_cons, hl]
      cases hd : s.all Char.isDigit with
      | true => rw [map_toLower_of_digits hd]
      | false => rw [hplus hd, hplus ((all_isDigit_map_toLower s).trans hd)]
    · have hl : c.toLower ≠ '+' := mt (toLower_eq_iff (by decide)).mp hc
      cases hd : (c :: s).all Char.isDigit with
      | true => rw [map_toLower_of_digits hd]
      | false =>
        rw [hplain hc hd]
        exact hplain hl ((all_isDigit_map_toLower (c :: s)).trans hd)

lemma readNat?_of_eqIgnoreAsciiCase (bound : Nat) (h : eqIgnoreAsciiCase s t = true) :
    readNat? bound s.toList = readNat? bound t.toList := by
  rw [← readNat?_map_toLower bound s.toList, ← readNat?_map_toLower bound t.toList]
  exact congrArg (readNat? bound) (eqIgnoreAsciiCase_iff.mp h)

end BracketQuery.Text
