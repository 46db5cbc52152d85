import BracketQuery.Proofs.Sort.Threshold
import BracketQuery.Proofs.Text.Split

/-! The paths at which a key and a condition read the same property. -/

namespace BracketQuery

namespace SortOrder

lemma walk?_nested_of_length_lt {path segs : List String} (s : String)
    (h : path.length < segs.length) : (nested path s).walk? segs = none := by
  induction path generalizing segs with
  | nil =>
    cases segs with
    | nil => cases h
    | cons x segs => rfl
  | cons key path ih =>
    cases segs with
    | nil => cases h
    | cons x segs =>
      have hrest : (nested path s).walk? segs = none := ih (Nat.lt_of_succ_lt_succ h)
      have hchild : Json.Value.child? x (nested (key :: path) s) = some (nested path s) ∨
          Json.Value.child? x (nested (key :: path) s) = none := by
        simp only [nested, List.foldr_cons, Json.Value.child?, Json.Value.member?]
        cases hx : x == key <;> cases hc : Text.eqIgnoreAsciiCase key x <;>
          simp [List.lookup_cons, hx, hc]
      rw [Json.Value.walk?]
      rcases hchild with hc | hc
      · rw [hc, Option.bind_some, hrest]
      · rw [hc, Option.bind_none]

variable {l : Leaf} {k : SortKey}

lemma found_nested_of_length_lt {path : List String} (s : String)
    (h : path.length < (segments k).length) : found k (nested path s) = none := by
  rw [found, Json.Value.resolve, walk?_nested_of_length_lt s h]
  rfl

lemma length_segments_lt (hpath : "" ∈ Text.pieces '.' l.path) (hk : k.field = l.path) :
    l.segments.length < (segments k).length := by
  rw [Leaf.segments, segments, hk]
  exact List.length_filter_lt_length_iff_exists.mpr ⟨"", hpath, by decide⟩

lemma found_nested_segments (hpath : "" ∈ Text.pieces '.' l.path) (hk : k.field = l.path)
    (s : String) : found k (nested l.segments s) = none :=
  found_nested_of_length_lt s (length_segments_lt hpath hk)

lemma found_empty (k : SortKey) : found k (.object []) = none := by
  cases hsegs : segments k with
  | nil => exact absurd hsegs (Text.pieces_ne_nil '.' k.field)
  | cons x segs =>
    rw [found, hsegs]
    rfl

lemma byKey_of_absent {v w : Json.Value} (hw : found k w = none) :
    byKey k v w = .eq ↔ found k v = none := by
  have hp : properties (found k v) (found k w) = .eq ↔ found k v = none := by
    rw [hw]
    cases found k v <;> simp [properties]
  rw [← hp, byKey]
  cases k.isDescending
  · exact Iff.rfl
  · exact Ordering.swap_eq_eq

lemma tied_empty_iff {v : Json.Value} : Tied [k] v (.object []) ↔ found k v = none := by
  rw [← byKeys_eq_eq, byKeys, byKeys, Ordering.then_eq, byKey_of_absent (found_empty k)]

lemma holds_isNull_iff {v : Json.Value} :
    (l.withOperator .isNull).holds v = true ↔ v.resolve l.segments = none := by
  cases hp : v.resolve l.segments with
  | none => simp [Leaf.holds_withOperator_of_absent hp .isNull nofun]
  | some property =>
    rw [Leaf.holds_of_present (l := l.withOperator .isNull) nofun hp]
    simp [Condition.test, Condition.ofLeaf, Leaf.comparison, Leaf.withOperator]

/--
A key and a condition on its path read the same property of every entity exactly if the path has no
empty segment, since the condition leaves these out and the key does not. It is also then, and only
then, that `isNull` holds of just those entities that the key sorts beside an empty one.
-/
theorem found_eq_resolve_iff (hk : k.field = l.path) (ho : l.operator ≠ .none) :
    ∃ c, Registry.standard.build l = .ok c ∧
      ((∀ v, found k v = v.resolve c.segments) ↔ "" ∉ Text.pieces '.' l.path) ∧
      ((∀ v, (l.withOperator .isNull).holds v = true ↔ Tied [k] v (.object [])) ↔
        "" ∉ Text.pieces '.' l.path) := by
  refine ⟨_, Registry.build_standard ho, ⟨fun h hpath => ?_, fun hpath v => ?_⟩,
    ⟨fun h hpath => ?_, fun hpath v => ?_⟩⟩
  · have hv := h (nested l.segments "")
    rw [found_nested_segments hpath hk] at hv
    exact Option.some_ne_none _ ((resolve_nested _ _).symm.trans hv.symm)
  · exact congrArg v.resolve (segments_eq hpath hk).symm
  · have hv := (h (nested l.segments "")).mpr (tied_empty_iff.mpr (found_nested_segments hpath hk ""))
    rw [holds_isNull_iff, resolve_nested] at hv
    cases hv
  · rw [holds_isNull_iff, tied_empty_iff, found, segments_eq hpath hk]

theorem found_eq_resolve_sinceNoon :
    oldestFirst.field = sinceNoon.path ∧ (sinceNoon.withOperator .lessThan).operator ≠ .none ∧
    "" ∉ Text.pieces '.' sinceNoon.path ∧
    ∃ c, Registry.standard.build (sinceNoon.withOperator .lessThan) = .ok c ∧
      (∀ v, found oldestFirst v = v.resolve c.segments) ∧
      ∀ v, (sinceNoon.withOperator .isNull).holds v = true ↔ Tied [oldestFirst] v (.object []) := by
  have hpath : "" ∉ Text.pieces '.' sinceNoon.path := by decide +kernel
  obtain ⟨c, hc, hfound, htied⟩ :=
    found_eq_resolve_iff (l := sinceNoon.withOperator .lessThan) (k := oldestFirst) rfl nofun
  exact ⟨rfl, nofun, hpath, c, hc, hfound.mpr hpath, htied.mpr hpath⟩

/-- At a path that ends with a dot, the condition reads the member before the dot. By the key this
member is absent, and two entities with it stay as they are. -/
theorem found_absent_before_dot :
    let k : SortKey := ⟨"a.", "a.", .ascending⟩
    let entity (n : Int) : Json.Value := .object [("a", .number (.integer n))]
    Text.isBlankString "a." = false ∧ Text.trimmed "a." = "a." ∧
    SortParser.standard.parse "a." = [k] ∧
    ∃ l, Leaf.make "a." none "a." .isNull [] = .ok l ∧
      found k (entity 2) = none ∧ (entity 2).resolve l.segments = some (.number (.integer 2)) ∧
      l.holds (entity 2) = false ∧ Tied [k] (entity 2) (.object []) ∧
      sortEntities [k] [entity 2, entity 1] = some [entity 2, entity 1] := by
  intro k entity
  have htied : Tied [k] (entity 2) (.object []) := by decide +kernel
  have hsort : sortEntities [k] [entity 2, entity 1] = some [entity 2, entity 1] :=
    sort?_eq_some_iff.mpr ⟨.inl (by decide), stableSort_of_pairwise (by decide +kernel)⟩
  exact ⟨by decide +kernel, by decide +kernel, by decide +kernel, _, rfl, tied_empty_iff.mp htied,
    by rfl, by decide +kernel, htied, hsort⟩

end SortOrder

end BracketQuery
