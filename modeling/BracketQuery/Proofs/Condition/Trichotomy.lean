import BracketQuery.Proofs.Condition.Complement
import BracketQuery.Proofs.Condition.Union

/-! The operators that compare with one value divide the properties that compare with it, and a range
is what two of them leave between its bounds. -/

namespace BracketQuery

namespace Scalar

variable {property : Json.Value} {a b c x s t : Scalar} {v w : String}

def atMost (a b : Scalar) : Bool := (a.compare? b).any Ordering.isLE

lemma atMost_iff : a.atMost b = true ↔ ∃ o, a.compare? b = some o ∧ o.isLE = true := by
  rw [atMost, Option.any_eq_true]

lemma atMost_comm : b.atMost a = (a.compare? b).any Ordering.isGE := by
  rw [atMost, compare?_swap, Option.any_map]
  congr 1
  funext o
  cases o <;> rfl

lemma atMost_trans (hab : a.atMost b = true) (hbc : b.atMost c = true) : a.atMost c = true := by
  cases a <;> cases b <;> cases c
  case bool.bool.bool p q r =>
    change (compare p.toNat r.toNat).isLE = true
    exact Std.TransCmp.isLE_trans hab hbc
  case number.number.number x y z =>
    obtain ⟨o, ho, hle⟩ := atMost_iff.mp hab
    obtain ⟨p, hp, hle'⟩ := atMost_iff.mp hbc
    obtain ⟨hx, -, rfl⟩ := Binary64.compare?_eq_some.mp ho
    obtain ⟨-, hz, rfl⟩ := Binary64.compare?_eq_some.mp hp
    exact atMost_iff.mpr ⟨_, Binary64.compare?_eq_some.mpr ⟨hx, hz, rfl⟩,
      Std.TransCmp.isLE_trans hle hle'⟩
  case time.time.time p q r =>
    change (p.order r).isLE = true
    exact Std.TransCmp.isLE_trans hab hbc
  case text.text.text p q r =>
    change (Text.order p r).isLE = true
    exact Std.TransCmp.isLE_trans hab hbc
  all_goals first | cases hab | cases hbc

def IsComparable (property : Json.Value) (v : String) : Prop :=
  ∃ k x s, pair? property v = some (x, s) ∧ x.kind? = some k ∧ s.kind? = some k

def AreOfOneKind (property : Json.Value) (v w : String) : Prop :=
  ∃ k x s y t, pair? property v = some (x, s) ∧ pair? property w = some (y, t) ∧
    s.kind? = some k ∧ t.kind? = some k

lemma isComparable_iff : IsComparable property v ↔ (order? property v).isSome := by
  rw [order?, IsComparable]
  cases pair? property v with
  | none => simp
  | some p => simp [isSome_compare?, Prod.ext_iff]

end Scalar

namespace Condition

variable {property : Json.Value} {v w : String} {x s t : Scalar}

lemma within?_of_atMost (hv : Scalar.pair? property v = some (x, s))
    (hw : Scalar.pair? property w = some (x, t)) (h : s.atMost t = true) :
    within? property v w = some true ↔ s.atMost x = true ∧ x.atMost t = true := by
  obtain ⟨o, ho, hle⟩ := Scalar.atMost_iff.mp h
  have hgt : o ≠ .gt := Ordering.ne_gt_iff_isLE.mpr hle
  rw [Scalar.atMost_comm, Scalar.atMost]
  simp only [within?, hv, hw, ho, Option.bind_eq_bind, Option.bind_some, if_neg hgt]
  cases x.compare? s with
  | none => simp
  | some l =>
    cases x.compare? t with
    | none => cases l <;> simp
    | some h => cases l <;> cases h <;> simp

lemma within?_iff_of_atMost (hv : Scalar.pair? property v = some (x, s))
    (hw : Scalar.pair? property w = some (x, t)) (h : s.atMost t = true) :
    within? property v w = some true ↔
      s.atMost x = true ∧ x.atMost t = true ∨ t.atMost x = true ∧ x.atMost s = true := by
  rw [within?_of_atMost hv hw h]
  refine ⟨.inl, ?_⟩
  rintro (hx | ⟨htx, hxs⟩)
  · exact hx
  -- the property equals both of them
  · exact ⟨Scalar.atMost_trans h htx, Scalar.atMost_trans hxs h⟩

lemma within?_iff (h : Scalar.AreOfOneKind property v w) : within? property v w = some true ↔
    (Scalar.order? property v).any Ordering.isGE = true ∧
      (Scalar.order? property w).any Ordering.isLE = true ∨
    (Scalar.order? property w).any Ordering.isGE = true ∧
      (Scalar.order? property v).any Ordering.isLE = true := by
  obtain ⟨k, x, s, y, t, hv, hw, hs, ht⟩ := h
  obtain ⟨o, ho⟩ := Option.isSome_iff_exists.mp (Scalar.isSome_compare?.mpr ⟨k, hs, ht⟩)
  obtain rfl := Scalar.property_unique hv hw ho
  simp only [Scalar.order?, hv, hw, Option.bind_some, ← Scalar.atMost_comm]
  cases hle : o.isLE with
  | true => exact within?_iff_of_atMost hv hw (Scalar.atMost_iff.mpr ⟨o, ho, hle⟩)
  | false =>
    have hge : t.atMost s = true := by
      rw [Scalar.atMost_comm, ho]
      cases o <;> trivial
    rw [within?_comm, within?_iff_of_atMost hw hv hge]
    exact Or.comm

end Condition

def Operator.admits : Operator → Ordering → Bool
  | equalTo, o => o == .eq
  | op, o => Condition.accepts op o

namespace Leaf

variable {l : Leaf} {entity property : Json.Value} {v w : String}

def asking (l : Leaf) (o : Operator) (vs : List String) : Leaf :=
  (l.withOperator o).withValues (.ofList vs)

def against? (l : Leaf) (entity : Json.Value) (v : String) : Option Ordering :=
  (entity.resolve l.segments).bind fun property => Scalar.order? property v

lemma isSome_against? : (l.against? entity v).isSome ↔
    ∃ property, entity.resolve l.segments = some property ∧ Scalar.IsComparable property v := by
  rw [against?]
  cases entity.resolve l.segments with
  | none => simp
  | some property => simp [Scalar.isComparable_iff]

lemma holds_single {o : Operator}
    (ho : o ∈ [.equalTo, .lessThan, .lessThanOrEqualTo, .greaterThan, .greaterThanOrEqualTo]) :
    (l.asking o [v]).holds entity = (l.against? entity v).any o.admits := by
  have hw : o ∈ Operator.widening ∧ (o == .isNull) = false := by
    simp only [List.mem_cons, List.not_mem_nil, or_false] at ho
    rcases ho with rfl | rfl | rfl | rfl | rfl <;> decide
  rw [against?]
  cases hp : entity.resolve l.segments with
  | none =>
    rw [holds_of_absent (l := l.asking o [v]) (Operator.ne_none_of_mem hw.1 (by decide)) hp]
    exact hw.2
  | some property =>
    have hfits : (l.asking o [v]).holds entity = (o.fits property v || false) :=
      holds_widening (l := l.asking o [v]) hp hw.1
    rw [hfits, Bool.or_false, Option.bind_some]
    simp only [List.mem_cons, List.not_mem_nil, or_false] at ho
    rcases ho with rfl | rfl | rfl | rfl | rfl
    · rw [Operator.fits, Scalar.equals]
      rcases Scalar.order? property v with _ | _ | _ | _ <;> rfl
    all_goals rfl

lemma holds_between (hp : entity.resolve l.segments = some property) (hne : v ≠ w) :
    (l.asking .between [v, w]).holds entity = (Condition.within? property v w == some true) := by
  have hvalues : (ValueSet.ofList [v, w]).toList = [v, w] := by simp [ValueSet.ofList, firsts, hne]
  have hrange := holds_range (l := l.withValues (.ofList [v, w])) hp (.inl rfl)
  rw [inRange?, Handler.bounds?, withValues, hvalues] at hrange
  refine hrange.trans ?_
  rcases h : Condition.within? property v w with _ | _ | _ <;> simp [h, Operator.isNegated]

lemma holds_between_eq (hp : entity.resolve l.segments = some property) (hne : v ≠ w)
    (h : Scalar.AreOfOneKind property v w) :
    (l.asking .between [v, w]).holds entity =
      ((l.asking .greaterThanOrEqualTo [v]).holds entity &&
          (l.asking .lessThanOrEqualTo [w]).holds entity ||
        (l.asking .greaterThanOrEqualTo [w]).holds entity &&
          (l.asking .lessThanOrEqualTo [v]).holds entity) := by
  have hat (u : String) : l.against? entity u = Scalar.order? property u := by
    rw [against?, hp, Option.bind_some]
  have hge : Operator.greaterThanOrEqualTo.admits = Ordering.isGE := by
    funext o
    cases o <;> rfl
  have hle : Operator.lessThanOrEqualTo.admits = Ordering.isLE := by
    funext o
    cases o <;> rfl
  rw [holds_between hp hne, Bool.eq_iff_iff, beq_iff_eq, Condition.within?_iff h]
  simp only [holds_single (o := .greaterThanOrEqualTo) (by decide),
    holds_single (o := .lessThanOrEqualTo) (by decide), hat, hge, hle, Bool.or_eq_true,
    Bool.and_eq_true]

/-- At most a value is what is below it or equals it, and at least the value is what is above it or
equals it. At most one of below, equal and above holds, and one of them does exactly if the property is
there and compares with the value. Between two values is what is at least one and at most the other. -/
theorem holds_trichotomy (l : Leaf) (entity : Json.Value) :
    let holds (o : Operator) (vs : List String) : Bool := (l.asking o vs).holds entity
    let exclusive : List Operator := [.lessThan, .equalTo, .greaterThan]
    (∀ o, o ≠ .none → ∀ vs, ∃ c, Registry.standard.build (l.asking o vs) = .ok c) ∧
    (∀ v, holds .lessThanOrEqualTo [v] = (holds .lessThan [v] || holds .equalTo [v]) ∧
      holds .greaterThanOrEqualTo [v] = (holds .greaterThan [v] || holds .equalTo [v]) ∧
      (exclusive.countP fun o => holds o [v]) ≤ 1 ∧
      ((∃ o ∈ exclusive, holds o [v] = true) ↔ ∃ property,
        entity.resolve l.segments = some property ∧ Scalar.IsComparable property v)) ∧
    ∀ property a b, entity.resolve l.segments = some property → a ≠ b →
      Scalar.AreOfOneKind property a b →
      ∀ vs, vs = [a, b] ∨ vs = [b, a] → holds .between vs =
        (holds .greaterThanOrEqualTo [a] && holds .lessThanOrEqualTo [b] ||
          holds .greaterThanOrEqualTo [b] && holds .lessThanOrEqualTo [a]) := by
  intro holds exclusive
  refine ⟨fun o ho vs => ⟨_, Registry.build_standard (l := l.asking o vs) ho⟩, fun v => ?_, ?_⟩
  · have hone (o : Operator)
        (ho : o ∈ [.equalTo, .lessThan, .lessThanOrEqualTo, .greaterThan, .greaterThanOrEqualTo]) :
        holds o [v] = (l.against? entity v).any o.admits := holds_single ho
    rw [← isSome_against?]
    simp only [exclusive, List.countP_cons, List.countP_nil, List.mem_cons, List.not_mem_nil,
      or_false, exists_eq_or_imp, exists_eq_left, hone .lessThan (by decide),
      hone .equalTo (by decide), hone .greaterThan (by decide),
      hone .lessThanOrEqualTo (by decide), hone .greaterThanOrEqualTo (by decide)]
    rcases l.against? entity v with _ | _ | _ | _ <;> decide
  · rintro property a b hp hne hk vs (rfl | rfl)
    · exact holds_between_eq hp hne hk
    · refine (holds_between_eq hp hne.symm ?_).trans (Bool.or_comm _ _)
      obtain ⟨k, x, s, y, t, ha, hb, hs, ht⟩ := hk
      exact ⟨k, y, t, x, s, hb, ha, ht, hs⟩

theorem holds_trichotomy_morning :
    let holds (o : Operator) (vs : List String) : Bool :=
      (betweenNoonAndMidnight.asking o vs).holds morning
    let property : Json.Value := .string "2024-01-01T07:00:00Z"
    let noon := "2024-01-01T12:00:00+05:00"
    let midnight := "2024-01-02"
    morning.resolve betweenNoonAndMidnight.segments = some property ∧
    Scalar.IsComparable property noon ∧ midnight ≠ noon ∧
    Scalar.AreOfOneKind property midnight noon ∧
    (∃ c, Registry.standard.build (betweenNoonAndMidnight.asking .between [midnight, noon]) = .ok c) ∧
    holds .equalTo [noon] = true ∧
    holds .lessThanOrEqualTo [noon] = (holds .lessThan [noon] || holds .equalTo [noon]) ∧
    (∃ o ∈ [.lessThan, .equalTo, .greaterThan], holds o [noon] = true) ∧
    holds .between [midnight, noon] = true ∧
    holds .between [midnight, noon] =
      (holds .greaterThanOrEqualTo [midnight] && holds .lessThanOrEqualTo [noon] ||
        holds .greaterThanOrEqualTo [noon] && holds .lessThanOrEqualTo [midnight]) := by
  intro holds property noon midnight
  have hp : morning.resolve betweenNoonAndMidnight.segments = some property := by rfl
  have hv : Scalar.IsComparable property noon := Scalar.isComparable_iff.mpr (by decide +kernel)
  have hne : midnight ≠ noon := by decide
  have hk : Scalar.AreOfOneKind property midnight noon := by
    obtain ⟨k, x, s, y, t, ha, hb, -, hs, ht⟩ := Condition.isSome_within?.mp
      (show (Condition.within? property midnight noon).isSome by decide +kernel)
    exact ⟨k, x, s, y, t, ha, hb, hs, ht⟩
  obtain ⟨hbuild, hsingle, hbetween⟩ := holds_trichotomy betweenNoonAndMidnight morning
  obtain ⟨hle, -, -, hone⟩ := hsingle noon
  exact ⟨hp, hv, hne, hk, hbuild .between nofun _, by decide +kernel, hle,
    hone.mpr ⟨property, hp, hv⟩, by decide +kernel, hbetween property _ _ hp hne hk _ (.inl rfl)⟩

end Leaf

end BracketQuery
