import BracketQuery.Proofs.Condition.Meaning
import BracketQuery.Proofs.Scalar

/-! Where a condition holds of exactly what its negation does not hold of. -/

namespace BracketQuery

lemma any_bne_not {answer : Option Bool} (h : answer.isSome) :
    answer.any (· != true) = !answer.any (· != false) := by
  obtain ⟨b, rfl⟩ := Option.isSome_iff_exists.mp h
  simp

lemma Json.Value.isNull_of_resolve {segments : List String} {v w : Json.Value}
    (h : v.resolve segments = some w) : w.isNull = false := by
  have hf := (Option.filter_eq_some_iff.mp h).2
  simpa using hf

lemma Condition.isSome_containsAny? {property : Json.Value} (values : List String)
    (hn : property.isNull = false) (ho : ∀ members, property ≠ .object members) :
    (containsAny? property values).isSome := by
  cases property with
  | null => cases hn
  | object members => exact absurd rfl (ho members)
  | _ => rfl

namespace Leaf

variable {l : Leaf} {entity property : Json.Value}

def IsRangeOf (l : Leaf) (property : Json.Value) : Prop :=
  ∃ a b, l.values.toList = [a, b] ∧ Scalar.Bounds property a b

def inRange? (l : Leaf) (property : Json.Value) : Option Bool :=
  (Handler.bounds? l).bind fun p => Condition.within? property p.1 p.2

lemma isSome_inRange? : (l.inRange? property).isSome ↔ l.IsRangeOf property := by
  unfold inRange? Handler.bounds? IsRangeOf
  split
  · next a b hv =>
    rw [Option.bind_some, Condition.isSome_within?, hv]
    refine ⟨fun h => ⟨a, b, rfl, h⟩, ?_⟩
    rintro ⟨c, d, hcd, h⟩
    cases hcd
    exact h
  · next hv =>
    refine ⟨nofun, ?_⟩
    rintro ⟨a, b, hab, -⟩
    exact absurd hab (hv a b)

lemma holds_equality (hp : entity.resolve l.segments = some property) {o : Operator}
    (ho : o = .equalTo ∨ o = .notEqualTo ∨ o = .isIn ∨ o = .notIn) :
    (l.withOperator o).holds entity =
      (l.values.toList.any (Scalar.equals property) != o.isNegated) := by
  rcases ho with rfl | rfl | rfl | rfl <;> exact holds_of_present nofun hp

lemma holds_containing (hp : entity.resolve l.segments = some property) {o : Operator}
    (ho : o = .contains ∨ o = .notContains) :
    (l.withOperator o).holds entity =
      (Condition.containsAny? property l.values.toList).any (· != o.isNegated) := by
  rcases ho with rfl | rfl <;> exact holds_of_present nofun hp

lemma holds_range (hp : entity.resolve l.segments = some property) {o : Operator}
    (ho : o = .between ∨ o = .notBetween) :
    (l.withOperator o).holds entity = (l.inRange? property).any (· != o.isNegated) := by
  have hc : (l.withOperator o).comparison = .range (Handler.bounds? l) := by
    rcases ho with rfl | rfl <;> rfl
  have hn : o ≠ .none := by
    rcases ho with rfl | rfl <;> exact nofun
  rw [holds_of_present (l := l.withOperator o) hn hp, hc, inRange?, Condition.test]
  cases Handler.bounds? l <;> rfl

lemma holds_notEqualTo (hp : entity.resolve l.segments = some property) :
    (l.withOperator .notEqualTo).holds entity = !(l.withOperator .equalTo).holds entity := by
  rw [holds_equality hp (by simp), holds_equality hp (by simp)]
  cases l.values.toList.any (Scalar.equals property) <;> rfl

lemma holds_notContains (hp : entity.resolve l.segments = some property)
    (ho : ∀ members, property ≠ .object members) :
    (l.withOperator .notContains).holds entity = !(l.withOperator .contains).holds entity := by
  rw [holds_containing hp (.inl rfl), holds_containing hp (.inr rfl)]
  exact any_bne_not (Condition.isSome_containsAny? _ (Json.Value.isNull_of_resolve hp) ho)

lemma holds_notBetween (hp : entity.resolve l.segments = some property)
    (hr : l.IsRangeOf property) :
    (l.withOperator .notBetween).holds entity = !(l.withOperator .between).holds entity := by
  rw [holds_range hp (.inl rfl), holds_range hp (.inr rfl)]
  exact any_bne_not (isSome_inRange?.mpr hr)

lemma holds_range_eq_false (hp : entity.resolve l.segments = some property)
    (hr : ¬ l.IsRangeOf property) {o : Operator} (ho : o = .between ∨ o = .notBetween) :
    (l.withOperator o).holds entity = false := by
  rw [← isSome_inRange?, Option.not_isSome_iff_eq_none] at hr
  rw [holds_range hp ho, hr, Option.any_none]

lemma holds_isNotNull (l : Leaf) (entity : Json.Value) :
    (l.withOperator .isNotNull).holds entity = !(l.withOperator .isNull).holds entity := by
  cases hp : entity.resolve l.segments with
  | none =>
    have habsent := holds_withOperator_of_absent hp
    rw [habsent .isNotNull nofun, habsent .isNull nofun]
    rfl
  | some property =>
    rw [holds_of_present (l := l.withOperator .isNotNull) nofun hp,
      holds_of_present (l := l.withOperator .isNull) nofun hp]
    rfl

lemma holds_membership (l : Leaf) (entity : Json.Value) :
    (l.withOperator .equalTo).holds entity = (l.withOperator .isIn).holds entity ∧
    (l.withOperator .notEqualTo).holds entity = (l.withOperator .notIn).holds entity := by
  cases hp : entity.resolve l.segments with
  | none =>
    have habsent := holds_withOperator_of_absent hp
    exact ⟨(habsent .equalTo nofun).trans (habsent .isIn nofun).symm,
      (habsent .notEqualTo nofun).trans (habsent .notIn nofun).symm⟩
  | some property =>
    exact ⟨(holds_equality hp (by simp)).trans (holds_equality hp (by simp)).symm,
      (holds_equality hp (by simp)).trans (holds_equality hp (by simp)).symm⟩

/-- Equality and membership are the same. A negated operator holds of the properties that are there,
that it applies to and that its positive form does not hold of. All apply to every property, but
objects contain nothing, and a range has two bounds of the kind of the property. -/
theorem holds_negated (l : Leaf) (entity : Json.Value) :
    let holds (o : Operator) : Bool := (l.withOperator o).holds entity
    (∀ o, o ≠ .none → ∃ c, Registry.standard.build (l.withOperator o) = .ok c) ∧
    holds .equalTo = holds .isIn ∧ holds .notEqualTo = holds .notIn ∧
    holds .isNotNull = !holds .isNull ∧
    (entity.resolve l.segments = none →
      ∀ o ∈ [.equalTo, .notEqualTo, .contains, .notContains, .between, .notBetween],
        holds o = false) ∧
    ∀ property, entity.resolve l.segments = some property →
      holds .notEqualTo = !holds .equalTo ∧
      ((∀ members, property ≠ .object members) → holds .notContains = !holds .contains) ∧
      (∀ members, property = .object members →
        holds .contains = false ∧ holds .notContains = false) ∧
      (l.IsRangeOf property → holds .notBetween = !holds .between) ∧
      (¬ l.IsRangeOf property → holds .between = false ∧ holds .notBetween = false) := by
  obtain ⟨hequal, hnotEqual⟩ := holds_membership l entity
  refine ⟨fun o ho => ⟨_, Registry.build_standard ho⟩, hequal, hnotEqual, holds_isNotNull l entity,
    ?_, ?_⟩
  · intro hp o ho
    have habsent := holds_withOperator_of_absent hp o
    simp only [List.mem_cons, List.not_mem_nil, or_false] at ho
    rcases ho with rfl | rfl | rfl | rfl | rfl | rfl <;> exact habsent nofun
  · intro property hp
    refine ⟨holds_notEqualTo hp, holds_notContains hp, ?_, holds_notBetween hp, fun hr =>
      ⟨holds_range_eq_false hp hr (.inl rfl), holds_range_eq_false hp hr (.inr rfl)⟩⟩
    rintro members rfl
    exact ⟨holds_containing hp (.inl rfl), holds_containing hp (.inr rfl)⟩

def betweenNoonAndMidnight : Leaf :=
  ⟨"made.at", some "root", "made.at", .between, .ofList ["2024-01-02", "2024-01-01T12:00:00+05:00"]⟩

def morning : Json.Value :=
  .object [("Made", .object [("at", .string "2024-01-01T07:00:00Z")])]

theorem holds_negated_morning :
    let holds (o : Operator) : Bool := (betweenNoonAndMidnight.withOperator o).holds morning
    let property : Json.Value := .string "2024-01-01T07:00:00Z"
    morning.resolve betweenNoonAndMidnight.segments = some property ∧
    (∀ members, property ≠ .object members) ∧ betweenNoonAndMidnight.IsRangeOf property ∧
    holds .between = true ∧ holds .notBetween = !holds .between ∧
    holds .equalTo = true ∧ holds .notEqualTo = !holds .equalTo ∧
    holds .contains = false ∧ holds .notContains = !holds .contains := by
  intro holds property
  have hp : morning.resolve betweenNoonAndMidnight.segments = some property := by rfl
  have ho : ∀ members, property ≠ .object members := nofun
  have hr : betweenNoonAndMidnight.IsRangeOf property :=
    ⟨_, _, rfl, Condition.isSome_within?.mp (by decide +kernel)⟩
  obtain ⟨-, -, -, -, -, h⟩ := holds_negated betweenNoonAndMidnight morning
  obtain ⟨hequal, hcontains, -, hbetween, -⟩ := h property hp
  exact ⟨hp, ho, hr, by decide +kernel, hbetween hr, by decide +kernel, hequal,
    by decide +kernel, hcontains ho⟩

end Leaf

end BracketQuery
