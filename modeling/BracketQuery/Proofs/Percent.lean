import BracketQuery.Grammar
import BracketQuery.Proofs.Text.Blank

/-! A text whose characters are escaped, all of them or some, is decoded to itself. -/

namespace BracketQuery

namespace Percent

lemma hexDigit_spec : ∀ n < 16,
    Text.hexValue? (hexDigit n) = some n ∧ isUnreserved (hexDigit n) = true := by decide

lemma hexDigit_toLower_spec : ∀ n < 16, Text.hexValue? (hexDigit n).toLower = some n ∧
    Text.isBlank (hexDigit n) = false ∧ Text.isBlank (hexDigit n).toLower = false := by
  decide

def IsHexDigit (n : Nat) (c : Char) : Prop := c = hexDigit n ∨ c = (hexDigit n).toLower

instance (n : Nat) (c : Char) : Decidable (IsHexDigit n c) :=
  inferInstanceAs (Decidable (c = hexDigit n ∨ c = (hexDigit n).toLower))

inductive AreEscapes : List UInt8 → List Char → Prop
  | nil : AreEscapes [] []
  | cons {b : UInt8} {bs : List UInt8} {h l : Char} {x : List Char} :
      IsHexDigit (b.toNat / 16) h → IsHexDigit (b.toNat % 16) l → AreEscapes bs x →
      AreEscapes (b :: bs) ('%' :: h :: l :: x)

/-- A text in which some characters are replaced by escapes, a percent sign always. -/
inductive IsEscaped : List Char → List Char → Prop
  | nil : IsEscaped [] []
  | plain {c : Char} {s t : List Char} : c ≠ '%' → IsEscaped s t → IsEscaped (c :: s) (c :: t)
  | escape {c : Char} {s x t : List Char} : AreEscapes (String.utf8EncodeChar c) x →
      IsEscaped s t → IsEscaped (c :: s) (x ++ t)

section

variable {b : UInt8} {bs : List UInt8} {c h l : Char} {n : Nat} {s t x : List Char}

lemma IsHexDigit.hexValue? (hc : IsHexDigit n c) (hn : n < 16) : Text.hexValue? c = some n := by
  rcases hc with rfl | rfl
  · exact (hexDigit_spec n hn).1
  · exact (hexDigit_toLower_spec n hn).1

lemma IsHexDigit.not_isBlank (hc : IsHexDigit n c) (hn : n < 16) : Text.isBlank c = false := by
  rcases hc with rfl | rfl
  · exact (hexDigit_toLower_spec n hn).2.1
  · exact (hexDigit_toLower_spec n hn).2.2

lemma byte?_of_isHexDigit (hh : IsHexDigit (b.toNat / 16) h) (hl : IsHexDigit (b.toNat % 16) l) :
    byte? h l = some b := by
  have hb := b.toNat_lt
  have hsum : 16 * (b.toNat / 16) + b.toNat % 16 = b.toNat := Nat.div_add_mod _ _
  rw [byte?, hh.hexValue? (by omega), hl.hexValue? (by omega)]
  change some (UInt8.ofNat (16 * (b.toNat / 16) + b.toNat % 16)) = some b
  rw [hsum, UInt8.ofNat_toNat]

lemma AreEscapes.bytes_append (hx : AreEscapes bs x) (t : List Char) :
    bytes (x ++ t) = bs ++ bytes t := by
  induction hx with
  | nil => rfl
  | cons hh hl _ ih =>
    rw [List.cons_append, List.cons_append, List.cons_append,
      bytes_escape (byte?_of_isHexDigit hh hl), ih, List.cons_append]

lemma AreEscapes.not_isBlank (hx : AreEscapes bs x) : ∀ c ∈ x, Text.isBlank c = false := by
  induction hx with
  | nil => nofun
  | @cons b _ _ _ _ hh hl _ ih =>
    have hb := b.toNat_lt
    exact List.forall_mem_cons.mpr ⟨rfl, List.forall_mem_cons.mpr ⟨hh.not_isBlank (by omega),
      List.forall_mem_cons.mpr ⟨hl.not_isBlank (by omega), ih⟩⟩⟩

lemma AreEscapes.exists_eq_cons (hx : AreEscapes (String.utf8EncodeChar c) x) :
    ∃ y, x = '%' :: y := by
  generalize hb : String.utf8EncodeChar c = bs at hx
  cases hx with
  | nil => exact absurd hb String.utf8EncodeChar_ne_nil
  | cons => exact ⟨_, rfl⟩

lemma areEscapes_flatMap (bs : List UInt8) : AreEscapes bs (bs.flatMap encodeByte) := by
  induction bs with
  | nil => exact .nil
  | cons b bs ih => exact .cons (.inl rfl) (.inl rfl) ih

lemma ofBytes?_utf8 (s : List Char) : ofBytes? (s.flatMap String.utf8EncodeChar) = some s := by
  have h : ByteArray.mk (s.flatMap String.utf8EncodeChar).toArray = s.utf8Encode := by
    apply ByteArray.ext
    rw [List.utf8Encode, List.data_toByteArray]
  rw [ofBytes?, h, List.utf8Decode?_utf8Encode]
  rfl

lemma IsEscaped.bytes_eq (hs : IsEscaped s t) : bytes t = s.flatMap String.utf8EncodeChar := by
  induction hs with
  | nil => rfl
  | plain hc _ ih => rw [bytes_cons hc, ih, List.flatMap_cons]
  | escape hx _ ih => rw [hx.bytes_append, ih, List.flatMap_cons]

lemma IsEscaped.eq_of_not_mem (hs : IsEscaped s t) (ht : '%' ∉ t) : t = s := by
  induction hs with
  | nil => rfl
  | plain _ _ ih => rw [ih fun h => ht (List.mem_cons_of_mem _ h)]
  | escape hx _ _ =>
    obtain ⟨y, rfl⟩ := hx.exists_eq_cons
    exact absurd List.mem_cons_self ht

theorem IsEscaped.decode_eq (hs : IsEscaped s t) : decode t = s := by
  unfold decode
  split
  · rw [hs.bytes_eq, ofBytes?_utf8, Option.getD_some]
  · next ht => exact hs.eq_of_not_mem (by simpa using ht)

lemma IsEscaped.isEmpty_eq (hs : IsEscaped s t) : t.isEmpty = s.isEmpty := by
  cases hs with
  | nil => rfl
  | plain _ _ => rfl
  | escape hx _ =>
    obtain ⟨y, rfl⟩ := hx.exists_eq_cons
    rfl

lemma IsEscaped.head? (hs : IsEscaped s t) : ∀ c ∈ t.head?, c ∈ s.head? ∨ c = '%' := by
  cases hs with
  | nil => nofun
  | plain _ _ => exact fun c hc => .inl hc
  | escape hx _ =>
    obtain ⟨y, rfl⟩ := hx.exists_eq_cons
    rintro c ⟨⟩
    exact .inr rfl

lemma IsEscaped.getLast? (hs : IsEscaped s t) :
    ∀ c ∈ t.getLast?, c ∈ s.getLast? ∨ Text.isBlank c = false := by
  induction hs with
  | nil => nofun
  | @plain d s t _ hst ih =>
    intro c hc
    cases hst with
    | nil => exact .inl hc
    | plain _ _ =>
      rw [List.getLast?_cons_cons] at hc ⊢
      exact ih c hc
    | escape hx _ =>
      obtain ⟨y, rfl⟩ := hx.exists_eq_cons
      rw [List.cons_append, List.getLast?_cons_cons] at hc
      rw [List.getLast?_cons_cons]
      exact ih c hc
  | @escape d s x t hx hst ih =>
    intro c hc
    rw [List.getLast?_append] at hc
    cases ht : t.getLast? with
    | none =>
      rw [ht, Option.none_or] at hc
      exact .inr (hx.not_isBlank c (List.mem_of_mem_getLast? hc))
    | some e =>
      rw [ht, Option.some_or] at hc
      refine (ih c (ht ▸ hc)).imp_left fun h => ?_
      rw [List.getLast?_cons, Option.mem_def.mp h]
      rfl

lemma IsEscaped.append_left {y z : List Char} (hy : IsEscaped y z) (hs : '%' ∉ s) :
    IsEscaped (s ++ y) (s ++ z) := by
  induction s with
  | nil => exact hy
  | cons c s ih =>
    rw [List.mem_cons, not_or] at hs
    exact .plain (Ne.symm hs.1) (ih hs.2)

lemma isEscaped_encode (s : List Char) : IsEscaped s (encode s) := by
  induction s with
  | nil => exact .nil
  | cons c s ih =>
    rw [encode, List.flatMap_cons]
    split
    · next h =>
      refine .plain ?_ ih
      rintro rfl
      cases h
    · exact .escape (areEscapes_flatMap _) ih

lemma decode_append_encode (hs : '%' ∉ s) (t : List Char) : decode (s ++ encode t) = s ++ t :=
  ((isEscaped_encode t).append_left hs).decode_eq

end

theorem decode_encode (s : List Char) : decode (encode s) = s := (isEscaped_encode s).decode_eq

lemma mem_encode {s : List Char} {c : Char} (h : c ∈ encode s) : isUnreserved c ∨ c = '%' := by
  obtain ⟨d, -, hd⟩ := List.mem_flatMap.mp h
  split at hd
  · next hu =>
    obtain rfl := List.mem_singleton.mp hd
    exact .inl hu
  · obtain ⟨b, -, hb⟩ := List.mem_flatMap.mp hd
    have hlt := b.toNat_lt
    simp only [encodeByte, List.mem_cons, List.not_mem_nil, or_false] at hb
    rcases hb with rfl | rfl | rfl
    · exact .inr rfl
    · exact .inl (hexDigit_spec _ (by omega)).2
    · exact .inl (hexDigit_spec _ (by omega)).2

lemma isUnreserved_bounds {c : Char} (h : isUnreserved c) :
    0x20 < c.toNat ∧ c.toNat < 0x7F ∧ c.toNat ≠ 0x3F := by
  simp only [isUnreserved, Char.isAlphanum, Char.isDigit, Bool.or_eq_true, Bool.and_eq_true,
    decide_eq_true_eq, beq_iff_eq, ge_iff_le, UInt32.le_iff_toNat_le] at h
  rcases h with ((((h | h) | rfl) | rfl) | rfl) | rfl
  · have hc := Text.bounds_of_isAlpha h
    omega
  · change (48 ≤ c.toNat ∧ c.toNat ≤ 57) at h
    omega
  all_goals decide

lemma mem_encode_bounds {s : List Char} {c : Char} (h : c ∈ encode s) :
    0x20 < c.toNat ∧ c.toNat < 0x7F ∧ c.toNat ≠ 0x3F := by
  rcases mem_encode h with h | rfl
  · exact isUnreserved_bounds h
  · decide

end Percent

namespace Grammar

lemma strip_of_trim {s : List Char} (ht : Text.trim s = s) (hq : s.head? ≠ some '?') :
    strip s = s := by
  rw [strip, ht]
  split
  · exact absurd rfl hq
  · rfl

lemma not_isBlank_of_mem_encode {s : List Char} {c : Char} (hc : c ∈ Percent.encode s) :
    Text.isBlank c = false := by
  obtain ⟨hl, hr, -⟩ := Percent.mem_encode_bounds hc
  exact Text.isBlank_eq_false hl hr

lemma strip_encode (s : List Char) : strip (Percent.encode s) = Percent.encode s := by
  refine strip_of_trim (Text.trim_of_forall fun c => not_isBlank_of_mem_encode) fun h => ?_
  exact (Percent.mem_encode_bounds (List.mem_of_mem_head? h)).2.2 rfl

lemma scan_encode {g : Grammar} {s : List Char} (hb : g.budget ≠ 0) (hs : s ≠ []) :
    g.scan (String.ofList (Percent.encode s)) = g.matchesIn s := by
  have hne : Percent.encode s ≠ [] := by
    intro he
    apply hs
    rw [← Percent.decode_encode s, he]
    rfl
  rw [scan, String.toList_ofList, strip_encode, Percent.decode_encode]
  simp [hb, hne]

end Grammar

end BracketQuery
