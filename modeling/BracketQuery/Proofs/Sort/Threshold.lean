import BracketQuery.Proofs.Condition.Trichotomy
import BracketQuery.Proofs.Sort.Stable

/-! The conditions on a text cut the entities that are sorted by it into those below, those at the text
and those above. -/

namespace BracketQuery

namespace SortOrder

def answering {α : Type} (f : α → Ordering) (o : Ordering) (xs : List α) : List α :=
  xs.filter fun a => f a == o

lemma eq_append_answering {α : Type} {f : α → Ordering} {xs : List α}
    (h : xs.Pairwise fun a b => (f b = .lt → f a = .lt) ∧ (f a = .gt → f b = .gt)) :
    xs = answering f .lt xs ++ answering f .eq xs ++ answering f .gt xs := by
  induction xs with
  | nil => rfl
  | cons x xs ih =>
    obtain ⟨hhead, htail⟩ := List.pairwise_cons.mp h
    have hxs := ih htail
    have hcons (o : Ordering) : answering f o (x :: xs) =
        if f x = o then x :: answering f o xs else answering f o xs := by
      simp [answering, List.filter_cons]
    have hnil {o : Ordering} (ho : ∀ b ∈ xs, f b ≠ o) : answering f o xs = [] :=
      List.filter_eq_nil_iff.mpr fun b hb => by simpa using ho b hb
    rw [hcons, hcons, hcons]
    cases hx : f x with
    | lt => simpa using hxs
    | eq =>
      have hlt : answering f .lt xs = [] := hnil fun b hb hf => by
        simp [(hhead b hb).1 hf] at hx
      rw [hlt] at hxs ⊢
      simpa using hxs
    | gt =>
      have hgt : ∀ b ∈ xs, f b = .gt := fun b hb => (hhead b hb).2 hx
      have hlt : answering f .lt xs = [] := hnil fun b hb => by simp [hgt b hb]
      have heq : answering f .eq xs = [] := hnil fun b hb => by simp [hgt b hb]
      rw [hlt, heq] at hxs ⊢
      simpa using hxs

lemma texts_chain_of_alike {a b c : String} (hab : isInstant a = isInstant b)
    (hbc : isInstant b = isInstant c) (hl : (texts a b).isLE) (hr : (texts b c).isLE) :
    texts a c = (texts a b).then (texts b c) := by
  cases hb : isInstant b with
  | false =>
    rw [hb] at hab hbc
    exact texts_chain_plain hl hr (.inr hb) (.inl hb) (.inl hab)
  | true =>
    rw [hb] at hab hbc
    exact texts_chain_instant hl hr hab hb hbc.symm

lemma texts_mono {a b t : String} (hat : isInstant a = isInstant t) (hbt : isInstant b = isInstant t)
    (h : texts a b ≠ .gt) :
    (texts b t = .lt → texts a t = .lt) ∧ (texts a t = .gt → texts b t = .gt) := by
  have hchain := texts_chain_of_alike (hat.trans hbt.symm) hbt (Ordering.ne_gt_iff_isLE.mp h)
  constructor
  · intro hb
    rw [hchain (by rw [hb]; rfl), hb, then_lt_of_isLE (Ordering.ne_gt_iff_isLE.mp h)]
  · intro ha
    by_contra hb
    rw [hchain (Ordering.ne_gt_iff_isLE.mp hb)] at ha
    cases ho : texts a b <;> cases hp : texts b t <;> simp_all

lemma order?_string (s t : String) : Scalar.order? (.string s) t = some (texts s t) := by
  cases hs : Timestamp.read? s <;> cases ht : Timestamp.read? t <;>
    simp only [Scalar.order?, Scalar.pair?, texts, hs, ht, Option.bind_some, Scalar.compare?]

variable {l : Leaf} {k : SortKey} {entity : Json.Value} {s t : String}

lemma mem_text?_iff : s ∈ text? k entity ↔ entity.resolve (segments k) = some (.string s) := by
  unfold text?
  split
  next u hu => simp only [hu, Option.mem_def, Option.some.injEq, Json.Value.string.injEq]
  next hu => exact iff_of_false (Option.not_mem_none s) (hu s)

lemma byKeys_of_texts {v w : Json.Value} (ha : k.direction = .ascending)
    (hv : v.resolve (segments k) = some (.string s)) (hw : w.resolve (segments k) = some (.string t)) :
    byKeys [k] v w = texts s t := by
  have hd : k.isDescending = false := by
    rw [SortKey.isDescending, ha]
    rfl
  rw [byKeys, byKeys, Ordering.then_eq, byKey, hv, hw, hd, if_neg Bool.false_ne_true]
  cases hs : Timestamp.read? s <;> cases ht : Timestamp.read? t <;>
    simp only [properties, values, texts, hs, ht]

lemma segments_eq (hpath : "" ∉ Text.pieces '.' l.path) (hk : k.field = l.path) :
    l.segments = segments k := by
  rw [Leaf.segments, segments, hk, List.filter_eq_self]
  intro x hx
  rw [bne_iff_ne]
  rintro rfl
  exact hpath hx

def operatorOf : Ordering → Operator
  | .lt => .lessThan
  | .eq => .equalTo
  | .gt => .greaterThan

lemma holds_operatorOf (hp : entity.resolve l.segments = some (.string s))
    (hv : l.values.toList = [t]) (o : Ordering) :
    (l.withOperator (operatorOf o)).holds entity = (texts s t == o) := by
  have hvalues : l.values = .ofList [t] := by
    rw [← hv, ValueSet.ofList_toList]
  have hasking : l.withOperator (operatorOf o) = l.asking (operatorOf o) [t] := by
    rw [Leaf.asking, ← hvalues]
    rfl
  rw [hasking, Leaf.holds_single (by cases o <;> decide), Leaf.against?, hp, Option.bind_some,
    order?_string, Option.any_some]
  cases o <;> cases texts s t <;> rfl

def against (k : SortKey) (t : String) (e : Json.Value) : Ordering :=
  match e.resolve (segments k) with
  | some (.string s) => texts s t
  | _ => .eq

lemma against_eq (h : entity.resolve (segments k) = some (.string s)) :
    against k t entity = texts s t := by
  rw [against, h]

section

variable {es : List Json.Value}
  (h : ∀ e ∈ es, ∃ s, e.resolve (segments k) = some (.string s) ∧ isInstant s = isInstant t)

include h

lemma isUniform_of_texts : ∀ j ∈ [k], IsUniform j es := by
  rw [List.forall_mem_singleton]
  have htext : ∀ e ∈ es, ∀ s ∈ text? k e, isInstant s = isInstant t := by
    intro e he s hs
    obtain ⟨u, hu, hi⟩ := h e he
    obtain rfl := Option.mem_unique hs (mem_text?_iff.mpr hu)
    exact hi
  cases hi : isInstant t with
  | true => exact .inl fun e he s hs => (htext e he s hs).trans hi
  | false => exact .inr fun e he s hs => (htext e he s hs).trans hi

lemma pairwise_against (ha : k.direction = .ascending) :
    (stableSort (byKeys [k]) es).Pairwise fun v w =>
      (against k t w = .lt → against k t v = .lt) ∧ (against k t v = .gt → against k t w = .gt) := by
  refine (pairwise_stableSort (isPreorderOn_of_isUniform (isUniform_of_texts h))).imp_of_mem ?_
  intro v w hv hw hle
  obtain ⟨a, hra, hia⟩ := h v ((perm_stableSort _ _).mem_iff.mp hv)
  obtain ⟨b, hrb, hib⟩ := h w ((perm_stableSort _ _).mem_iff.mp hw)
  rw [byKeys_of_texts ha hra hrb] at hle
  rw [against_eq hra, against_eq hrb]
  exact texts_mono hia hib hle

end

/-- Entities are sorted by a text that each of them has, be they all timestamps or none of them. For
another text of that sort, the ones below it come first, then those that equal it, then those above. -/
theorem sortEntities_eq_append {es : List Json.Value} (hpath : "" ∉ Text.pieces '.' l.path)
    (hk : k.field = l.path) (ha : k.direction = .ascending) (hv : l.values.toList = [t])
    (h : ∀ e ∈ es, ∃ s, e.resolve (Text.pieces '.' l.path) = some (.string s) ∧
      isInstant s = isInstant t) :
    ∃ sorted, sortEntities [k] es = some sorted ∧
      let matching (o : Operator) : List Json.Value := sorted.filter (l.withOperator o).holds
      sorted = matching .lessThan ++ matching .equalTo ++ matching .greaterThan := by
  rw [← hk] at h
  refine ⟨_, sortEntities_of_isUniform (isUniform_of_texts h), ?_⟩
  intro matching
  have hsegs : l.segments = segments k := segments_eq hpath hk
  have hmatching (o : Ordering) :
      matching (operatorOf o) = answering (against k t) o (stableSort (byKeys [k]) es) := by
    refine List.filter_congr fun e he => ?_
    obtain ⟨s, hr, -⟩ := h e ((perm_stableSort _ _).mem_iff.mp he)
    rw [holds_operatorOf (by rw [hsegs]; exact hr) hv, against_eq hr]
  have hsplit := eq_append_answering (pairwise_against h ha)
  rw [← hmatching, ← hmatching, ← hmatching] at hsplit
  exact hsplit

def sinceNoon : Leaf :=
  ⟨"made.at", some "root", "made.at", .none, .ofList ["2024-01-01T12:00:00+05:00"]⟩

def oldestFirst : SortKey := ⟨"made.at", "made.at", .ascending⟩

def deliveries : List Json.Value :=
  let entity (name key s : String) : Json.Value :=
    .object [("name", .string name), ("made", .object [(key, .string s)])]
  [entity "a" "at" "2024-01-02", entity "b" "at" "2024-01-01T07:00:00Z",
    entity "c" "AT" "2024-01-01T06:59:59.5Z", entity "d" "At" "2024-01-01T08:00:00+01:00",
    entity "e" "at" "2024-01-01"]

theorem sortEntities_eq_append_deliveries :
    "" ∉ Text.pieces '.' sinceNoon.path ∧ oldestFirst.field = sinceNoon.path ∧
    oldestFirst.direction = .ascending ∧
    sinceNoon.values.toList = ["2024-01-01T12:00:00+05:00"] ∧
    (∀ e ∈ deliveries, ∃ s, e.resolve (Text.pieces '.' sinceNoon.path) = some (.string s) ∧
      isInstant s = isInstant "2024-01-01T12:00:00+05:00") ∧
    ∃ sorted, sortEntities [oldestFirst] deliveries = some sorted ∧
      let matching (o : Operator) : List Json.Value := sorted.filter (sinceNoon.withOperator o).holds
      sorted = matching .lessThan ++ matching .equalTo ++ matching .greaterThan ∧
      (matching .equalTo).map (text? ⟨"name", "name", .ascending⟩) = [some "b", some "d"] := by
  have hpath : "" ∉ Text.pieces '.' sinceNoon.path := by decide +kernel
  have hmade : ∀ e ∈ deliveries, ∃ s ∈ text? oldestFirst e,
      isInstant s = isInstant "2024-01-01T12:00:00+05:00" := by decide +kernel
  have htexts : ∀ e ∈ deliveries, ∃ s, e.resolve (Text.pieces '.' sinceNoon.path) =
      some (.string s) ∧ isInstant s = isInstant "2024-01-01T12:00:00+05:00" := by
    intro e he
    obtain ⟨s, hs, hi⟩ := hmade e he
    exact ⟨s, mem_text?_iff.mp hs, hi⟩
  obtain ⟨sorted, hs, hsplit⟩ :=
    sortEntities_eq_append (l := sinceNoon) (k := oldestFirst) hpath rfl rfl rfl htexts
  obtain rfl : stableSort (byKeys [oldestFirst]) deliveries = sorted := (sort?_eq_some_iff.mp hs).2
  exact ⟨hpath, rfl, rfl, rfl, htexts, _, hs, hsplit, by decide +kernel⟩

end SortOrder

end BracketQuery
