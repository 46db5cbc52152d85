import BracketQuery.Proofs.Condition.Meaning
import Mathlib.Tactic.Lemma

/-! A condition with the values of two others holds where one of them does, or where both of them do. -/

namespace BracketQuery

namespace ValueSet

def union (s t : ValueSet) : ValueSet := .ofList (s.toList ++ t.toList)

lemma any_union (s t : ValueSet) (p : String → Bool) :
    (s.union t).toList.any p = (s.toList.any p || t.toList.any p) := by
  rw [← List.any_append, Bool.eq_iff_iff, List.any_eq_true, List.any_eq_true]
  simp only [union, mem_toList_ofList]

lemma union_ne_nil {s : ValueSet} (hs : s.toList ≠ []) (t : ValueSet) :
    (s.union t).toList ≠ [] := by
  obtain ⟨v, hv⟩ := List.exists_mem_of_ne_nil _ hs
  exact List.ne_nil_of_mem (mem_toList_ofList.mpr (List.mem_append_left _ hv))

end ValueSet

namespace Operator

/-- The operators that hold where one of the values fits. -/
def widening : List Operator :=
  [equalTo, isIn, lessThan, lessThanOrEqualTo, greaterThan, greaterThanOrEqualTo, contains,
    startsWith, endsWith]

/-- The operators that hold where none of the values fits. -/
def narrowing : List Operator := [notEqualTo, notIn, notContains]

/-- Whether a value fits a property, the negation of the operator aside. -/
def fits (o : Operator) (property : Json.Value) (v : String) : Bool :=
  match o with
  | equalTo | notEqualTo | isIn | notIn => Scalar.equals property v
  | contains | notContains => Condition.containsAny? property [v] == some true
  | startsWith => (Scalar.text? property).any fun s => v.toList.isPrefixOf s.toList
  | endsWith => (Scalar.text? property).any fun s => v.toList.isSuffixOf s.toList
  | regex => (Scalar.text? property).any fun s => (Pattern.read? false v).any fun p => p.isMatch s
  | o => (Scalar.order? property v).any (Condition.accepts o)

end Operator

lemma any_any_comm {α β : Type} (o : Option α) (xs : List β) (p : α → β → Bool) :
    (o.any fun a => xs.any (p a)) = xs.any fun b => o.any fun a => p a b := by
  cases o <;> simp

namespace Condition

variable (property : Json.Value) (vs : List String)

lemma any_containsAny? : (containsAny? property vs).any (· != false) =
    vs.any fun v => containsAny? property [v] == some true := by
  cases property <;> simp [containsAny?, Scalar.text?]

lemma any_containsAny?_not : (containsAny? property vs).any (· != true) =
    ((containsAny? property []).isSome &&
      !vs.any fun v => containsAny? property [v] == some true) := by
  cases property <;> simp [containsAny?, Scalar.text?]

end Condition

lemma Operator.ne_none_of_mem {o : Operator} {os : List Operator} (ho : o ∈ os)
    (hn : .none ∉ os) : o ≠ .none := by
  rintro rfl
  exact hn ho

namespace Leaf

variable {l : Leaf} {entity property : Json.Value}

def withValues (l : Leaf) (vs : ValueSet) : Leaf := { l with values := vs }

lemma holds_widening (hp : entity.resolve l.segments = some property)
    (ho : l.operator ∈ Operator.widening) :
    l.holds entity = l.values.toList.any (l.operator.fits property) := by
  rw [holds_of_present (Operator.ne_none_of_mem ho (by decide)) hp]
  obtain ⟨name, groupName, path, operator, values⟩ := l
  simp only [Operator.widening, List.mem_cons, List.not_mem_nil, or_false] at ho
  rcases ho with rfl | rfl | rfl | rfl | rfl | rfl | rfl | rfl | rfl
  -- equality and membership, the four orderings, what is contained, and the two affixes
  · exact Bool.bne_false _
  · exact Bool.bne_false _
  · rfl
  · rfl
  · rfl
  · rfl
  · exact Condition.any_containsAny? property values.toList
  · exact any_any_comm _ _ _
  · exact any_any_comm _ _ _

lemma holds_regex (hp : entity.resolve l.segments = some property) (ho : l.operator = .regex)
    (hv : l.values.toList ≠ []) :
    l.holds entity = l.values.toList.any (l.operator.fits property) := by
  rw [holds_of_present (by rw [ho]; exact nofun) hp]
  obtain ⟨name, groupName, path, operator, values⟩ := l
  obtain rfl : operator = .regex := ho
  have he : values.toList.isEmpty = false := by simpa using hv
  simp only [comparison, Condition.test, Condition.ofLeaf, he, Bool.false_or, List.any_filterMap]
  exact any_any_comm _ _ _

lemma holds_narrowing (hp : entity.resolve l.segments = some property)
    (ho : l.operator ∈ Operator.narrowing) :
    ∃ applies, ∀ vs, (l.withValues vs).holds entity =
      (applies && !vs.toList.any (l.operator.fits property)) := by
  have hpresent (vs : ValueSet) := holds_of_present (l := l.withValues vs)
    (Operator.ne_none_of_mem ho (by decide)) hp
  obtain ⟨name, groupName, path, operator, values⟩ := l
  simp only [Operator.narrowing, List.mem_cons, List.not_mem_nil, or_false] at ho
  rcases ho with rfl | rfl | rfl
  · exact ⟨true, fun vs => (hpresent vs).trans (Bool.bne_true _)⟩
  · exact ⟨true, fun vs => (hpresent vs).trans (Bool.bne_true _)⟩
  -- an object is not asked what it contains, whatever the values are
  · exact ⟨(Condition.containsAny? property []).isSome, fun vs =>
      (hpresent vs).trans (Condition.any_containsAny?_not property vs.toList)⟩

/-- The leaf holds where one of its values fits. A pattern holds of every text if it has no value. -/
def IsPositive (l : Leaf) : Prop :=
  l.operator ∈ Operator.widening ∨ l.operator = .regex ∧ l.values.toList ≠ []

lemma IsPositive.ne_none (h : l.IsPositive) : l.operator ≠ .none := by
  rcases h with ho | ⟨ho, -⟩
  · exact Operator.ne_none_of_mem ho (by decide)
  · exact Operator.ne_none_of_mem (List.mem_singleton.mpr ho) (by decide)

lemma IsPositive.holds_eq (h : l.IsPositive) (hp : entity.resolve l.segments = some property) :
    l.holds entity = l.values.toList.any (l.operator.fits property) := by
  rcases h with ho | ⟨ho, hv⟩
  · exact holds_widening hp ho
  · exact holds_regex hp ho hv

lemma IsPositive.union {s : ValueSet} (h : (l.withValues s).IsPositive) (t : ValueSet) :
    (l.withValues (s.union t)).IsPositive :=
  h.imp_right fun ⟨ho, hs⟩ => ⟨ho, ValueSet.union_ne_nil hs t⟩

lemma holds_withValues_of_absent (hn : l.operator ≠ .none) (hp : entity.resolve l.segments = none)
    (vs : ValueSet) : (l.withValues vs).holds entity = (l.operator == .isNull) :=
  holds_of_absent hn hp

lemma holds_union_or {s t : ValueSet} (hs : (l.withValues s).IsPositive)
    (ht : (l.withValues t).IsPositive) :
    (l.withValues (s.union t)).holds entity =
      ((l.withValues s).holds entity || (l.withValues t).holds entity) := by
  cases hp : entity.resolve l.segments with
  | none =>
    have habsent := holds_withValues_of_absent (l := l) hs.ne_none hp
    rw [habsent, habsent, habsent, Bool.or_self]
  | some property =>
    rw [hs.holds_eq hp, ht.holds_eq hp, (hs.union t).holds_eq hp]
    exact s.any_union t _

lemma holds_union_and (ho : l.operator ∈ Operator.narrowing) (s t : ValueSet) :
    (l.withValues (s.union t)).holds entity =
      ((l.withValues s).holds entity && (l.withValues t).holds entity) := by
  cases hp : entity.resolve l.segments with
  | none =>
    have habsent := holds_withValues_of_absent (Operator.ne_none_of_mem ho (by decide)) hp
    rw [habsent, habsent, habsent, Bool.and_self]
  | some property =>
    obtain ⟨applies, h⟩ := holds_narrowing hp ho
    rw [h, h, h, ValueSet.any_union]
    cases applies <;> simp [Bool.not_or]

lemma holds_regex_iff (ho : l.operator = .regex) (hv : l.values.toList ≠ []) :
    l.holds entity = true ↔ ∃ property s v p, entity.resolve l.segments = some property ∧
      Scalar.text? property = some s ∧ v ∈ l.values.toList ∧ Pattern.read? false v = some p ∧
      p.isMatch s = true := by
  cases hp : entity.resolve l.segments with
  | none =>
    rw [holds_of_absent (IsPositive.ne_none (.inr ⟨ho, hv⟩)) hp, ho]
    exact ⟨nofun, nofun⟩
  | some property =>
    rw [holds_regex hp ho hv, ho, List.any_eq_true]
    simp only [Operator.fits, Option.any_eq_true]
    constructor
    · rintro ⟨v, hm, s, hs, p, hr, h⟩
      exact ⟨property, s, v, p, rfl, hs, hm, hr, h⟩
    · rintro ⟨_, s, v, p, ⟨⟩, hs, hm, hr, h⟩
      exact ⟨v, hm, s, hs, p, hr, h⟩

/-- More values widen what a positive operator holds of, and narrow what a negated one holds of. For
patterns this is so from the first value on, and there values that are no patterns do not count. -/
theorem holds_union (l : Leaf) (s t : ValueSet) (entity : Json.Value) :
    let holds (vs : ValueSet) : Bool := (l.withValues vs).holds entity
    (l.operator ≠ .none → ∀ vs, ∃ c, Registry.standard.build (l.withValues vs) = .ok c) ∧
    (l.operator ∈ Operator.widening → holds (s.union t) = (holds s || holds t)) ∧
    (l.operator ∈ Operator.narrowing → holds (s.union t) = (holds s && holds t)) ∧
    (l.operator = .regex → s.toList ≠ [] → t.toList ≠ [] →
      holds (s.union t) = (holds s || holds t)) ∧
    (l.operator = .regex → s.toList ≠ [] →
      (holds s = true ↔ ∃ property text v p, entity.resolve l.segments = some property ∧
        Scalar.text? property = some text ∧ v ∈ s.toList ∧ Pattern.read? false v = some p ∧
        p.isMatch text = true)) :=
  ⟨fun ho vs => ⟨_, Registry.build_standard (l := l.withValues vs) ho⟩,
    fun ho => holds_union_or (.inl ho) (.inl ho), fun ho => holds_union_and ho s t,
    fun ho hs ht => holds_union_or (.inr ⟨ho, hs⟩) (.inr ⟨ho, ht⟩),
    holds_regex_iff (l := l.withValues s)⟩

def onTag (o : Operator) : Leaf := ⟨"tag", some "root", "tag", o, .ofList []⟩

def tagged : Json.Value := .object [("tag", .string "abc")]

theorem holds_union_tagged :
    let holds (o : Operator) (vs : ValueSet) : Bool := ((onTag o).withValues vs).holds tagged
    let s : ValueSet := .ofList ["(", "^a"]
    let t : ValueSet := .ofList ["c$", "abc"]
    s.toList ≠ [] ∧ t.toList ≠ [] ∧
    holds .regex (.ofList ["("]) = false ∧ holds .regex s = true ∧
    holds .regex (s.union t) = (holds .regex s || holds .regex t) ∧
    .isIn ∈ Operator.widening ∧ holds .isIn s = false ∧ holds .isIn t = true ∧
    holds .isIn (s.union t) = (holds .isIn s || holds .isIn t) ∧
    .notIn ∈ Operator.narrowing ∧ holds .notIn s = true ∧ holds .notIn t = false ∧
    holds .notIn (s.union t) = (holds .notIn s && holds .notIn t) := by
  intro holds s t
  have hs : s.toList ≠ [] := by decide
  have ht : t.toList ≠ [] := by decide
  have hw : .isIn ∈ Operator.widening := by decide
  have hn : .notIn ∈ Operator.narrowing := by decide
  obtain ⟨-, -, -, hregex, -⟩ := holds_union (onTag .regex) s t tagged
  obtain ⟨-, hwiden, -⟩ := holds_union (onTag .isIn) s t tagged
  obtain ⟨-, -, hnarrow, -⟩ := holds_union (onTag .notIn) s t tagged
  exact ⟨hs, ht, by decide +kernel, by decide +kernel, hregex rfl hs ht, hw, by decide +kernel,
    by decide +kernel, hwiden hw, hn, by decide +kernel, by decide +kernel, hnarrow hn⟩

end Leaf

end BracketQuery
