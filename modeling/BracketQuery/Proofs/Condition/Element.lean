import BracketQuery.Proofs.Condition.Complement
import BracketQuery.Proofs.Text.Numeral
import BracketQuery.Proofs.Text.Split

/-! An array contains a value where one of its items, taken by its index, equals it. -/

namespace BracketQuery

namespace Json.Value

variable {v w : Value} {xs : List String}

lemma resolve_eq_some_iff : v.resolve xs = some w ↔ walk? xs v = some w ∧ w.isNull = false := by
  simp [resolve, Option.filter_eq_some_iff]

lemma child?_array {items : List Value} {i : Nat} (hi : i ≤ Text.word64Top) :
    child? (Text.decimal i) (.array items) = items[i]? := by
  simp [child?, Text.readNat?_decimal hi]

lemma resolve_item {items : List Value} {i : Nat} (h : v.resolve xs = some (.array items))
    (hi : i ≤ Text.word64Top) :
    v.resolve (xs ++ [Text.decimal i]) = items[i]?.filter fun w => !w.isNull := by
  rw [resolve, walk?_append, (resolve_eq_some_iff.mp h).1, Option.bind_some, walk?, child?_array hi]
  cases items[i]? <;> rfl

end Json.Value

lemma Scalar.any_equals_eq_false {property : Json.Value} (h : text? property = none)
    (vs : List String) : vs.any (equals property) = false := by
  refine List.any_eq_false.mpr fun v _ => ?_
  cases property with
  | null => exact Bool.false_ne_true
  | array items => exact Bool.false_ne_true
  | object members => exact Bool.false_ne_true
  | _ => cases h

namespace Leaf

variable {l : Leaf} {entity : Json.Value} {items : List Json.Value}

def item (l : Leaf) (i : Nat) : Leaf := { l with path := l.path ++ "." ++ Text.decimal i }

lemma segments_item (l : Leaf) (i : Nat) : (l.item i).segments = l.segments ++ [Text.decimal i] := by
  have hdigits := Text.isDigits_decimal i
  have hdot : '.' ∉ (Text.decimal i).toList := fun hd => nomatch hdigits.isDigit '.' hd
  have hne : Text.decimal i ≠ "" := mt String.toList_eq_nil_iff.mpr hdigits.ne_nil
  have hpath : (l.item i).path = l.path ++ String.singleton '.' ++ Text.decimal i := rfl
  rw [segments, hpath, Text.pieces_append, List.filter_append, Text.pieces_of_not_mem hdot,
    List.filter_singleton, bne_iff_ne.mpr hne]
  rfl

lemma holds_equalTo_item (hp : entity.resolve l.segments = some (.array items)) {i : Nat}
    (hi : i ≤ Text.word64Top) :
    ((l.item i).withOperator .equalTo).holds entity =
      items[i]?.any fun v => l.values.toList.any (Scalar.equals v) := by
  have hr := Json.Value.resolve_item hp hi
  rw [← segments_item] at hr
  have habsent (h : entity.resolve (l.item i).segments = none) :
      ((l.item i).withOperator .equalTo).holds entity = false :=
    holds_withOperator_of_absent h .equalTo nofun
  cases hv : items[i]? with
  | none =>
    rw [hv, Option.filter_none] at hr
    exact habsent hr
  | some v =>
    rw [hv, Option.filter_some] at hr
    cases hn : v.isNull with
    | true =>
      rw [hn] at hr
      have hnull : Scalar.text? v = none := by
        cases v with
        | null => rfl
        | _ => cases hn
      rw [habsent hr, Option.any_some, Scalar.any_equals_eq_false hnull]
    | false =>
      rw [hn] at hr
      rw [holds_equality hr (.inl rfl)]
      exact Bool.bne_false _

lemma holds_contains_array (hp : entity.resolve l.segments = some (.array items)) :
    (l.withOperator .contains).holds entity =
      items.any fun v => l.values.toList.any (Scalar.equals v) := by
  rw [holds_containing hp (.inl rfl)]
  change ((l.values.toList.any fun v => items.any fun i => Scalar.equals i v) != false) = _
  rw [Bool.bne_false, Bool.eq_iff_iff]
  simp only [List.any_eq_true]
  constructor
  · rintro ⟨v, hv, i, hi, h⟩
    exact ⟨i, hi, v, hv, h⟩
  · rintro ⟨i, hi, v, hv, h⟩
    exact ⟨v, hv, i, hi, h⟩

lemma holds_contains_iff_exists (hp : entity.resolve l.segments = some (.array items))
    (hn : items.length ≤ Text.word64Top) : (l.withOperator .contains).holds entity = true ↔
      ∃ i < items.length, ((l.item i).withOperator .equalTo).holds entity = true := by
  rw [holds_contains_array hp, List.any_eq_true]
  constructor
  · rintro ⟨v, hv, h⟩
    obtain ⟨i, hi, rfl⟩ := List.mem_iff_getElem.mp hv
    refine ⟨i, hi, ?_⟩
    rw [holds_equalTo_item hp (by omega), List.getElem?_eq_getElem hi]
    exact h
  · rintro ⟨i, hi, h⟩
    rw [holds_equalTo_item hp (by omega), List.getElem?_eq_getElem hi] at h
    exact ⟨items[i], List.getElem_mem hi, h⟩

/-- `contains` holds of an array where equality holds of an item, that is where the same leaf holds one
index further down the path, and `notContains` where it holds of none. An item that is null, an object
or an array equals no value. An array has no more items than a 64-bit word can count. -/
theorem holds_contains_iff_item (hp : entity.resolve l.segments = some (.array items))
    (hn : items.length ≤ Text.word64Top) :
    let holds (m : Leaf) (o : Operator) : Bool := (m.withOperator o).holds entity
    (∀ m o, o ≠ .none → ∃ c, Registry.standard.build (m.withOperator o) = .ok c ∧
      c.holds entity = holds m o) ∧
    (holds l .contains = true ↔ ∃ i < items.length, holds (l.item i) .equalTo = true) ∧
    (holds l .notContains = true ↔ ∀ i < items.length, holds (l.item i) .equalTo = false) ∧
    ∀ i v, items[i]? = some v → (v = .null ∨ (∃ ms, v = .object ms) ∨ ∃ vs, v = .array vs) →
      holds (l.item i) .equalTo = false := by
  intro holds
  have hcontains := holds_contains_iff_exists hp hn
  refine ⟨fun m o ho => ⟨_, Registry.build_standard ho, (holds_eq (l := m.withOperator o) ho).symm⟩,
    hcontains, ?_, ?_⟩
  · have hnot : holds l .notContains = !holds l .contains := holds_notContains hp nofun
    rw [hnot, Bool.not_eq_true', Bool.eq_false_iff, ne_eq, hcontains]
    simp only [not_exists, not_and, Bool.not_eq_true]
    exact Iff.rfl
  · intro i v hv hkind
    have hi : i < items.length := (List.getElem?_eq_some_iff.mp hv).1
    have htext : Scalar.text? v = none := by
      rcases hkind with rfl | ⟨ms, rfl⟩ | ⟨vs, rfl⟩ <;> rfl
    exact (holds_equalTo_item hp (by omega)).trans (by
      rw [hv, Option.any_some, Scalar.any_equals_eq_false htext])

def labels : List Json.Value :=
  [.null, .array [.string "5"], .object [("5", .string "5")], .string "new", .number (.integer 5)]

theorem holds_contains_iff_item_labels :
    let l : Leaf := ⟨"Labels.", some "root", "Labels.", .none, .ofList ["old", "5.0"]⟩
    let entity : Json.Value := .object [("labels", .array labels)]
    let holds (m : Leaf) (o : Operator) : Bool := (m.withOperator o).holds entity
    entity.resolve l.segments = some (.array labels) ∧ labels.length ≤ Text.word64Top ∧
    (holds l .contains = true ↔ ∃ i < 5, holds (l.item i) .equalTo = true) ∧
    (holds l .notContains = true ↔ ∀ i < 5, holds (l.item i) .equalTo = false) ∧
    holds (l.item 1) .equalTo = false ∧ holds (l.item 4) .equalTo = true := by
  intro l entity holds
  have hsegs : l.segments = ["Labels"] := by decide +kernel
  have hp : entity.resolve l.segments = some (.array labels) := by
    rw [hsegs]
    rfl
  have hn : labels.length ≤ Text.word64Top := by decide
  obtain ⟨-, hcontains, hnot, hkinds⟩ := holds_contains_iff_item (l := l) hp hn
  exact ⟨hp, hn, hcontains, hnot, hkinds 1 _ rfl (.inr (.inr ⟨_, rfl⟩)), by decide +kernel⟩

end Leaf

end BracketQuery
