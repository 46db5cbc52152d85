import BracketQuery.Condition
import Mathlib.Tactic.Lemma

/-! Scalars of one kind are ordered, and it does not matter which of two bounds comes first. -/

namespace BracketQuery

instance : Std.TransCmp Text.order :=
  inferInstanceAs (Std.TransCmp (compareOn String.toList))

lemma Text.eq_of_order_eq {s t : String} (h : Text.order s t = .eq) : s = t :=
  String.toList_inj.mp (Std.LawfulEqOrd.eq_of_compare h)

lemma Text.order_eq_lt {s t : String} : Text.order s t = .lt ↔ s < t := by
  have hlists (x y : List Char) : compare x y = .lt ↔ x < y := by
    induction x generalizing y with
    | nil => cases y <;> simp
    | cons c x ih =>
      cases y with
      | nil => simp
      | cons d y =>
        have hchars : compare c d = .lt ↔ c < d := compareOfLessAndEq_eq_lt
        rw [List.compare_cons_cons, Ordering.then_eq_lt, ih, List.cons_lt_cons_iff, hchars,
          Std.compare_eq_iff_eq]
  exact hlists s.toList t.toList

instance : Std.TransCmp Timestamp.order :=
  inferInstanceAs (Std.TransCmp
    (compareLex (compareOn Timestamp.seconds) (compareOn Timestamp.nanos)))

lemma Timestamp.order_eq_lt {s t : Timestamp} : s.order t = .lt ↔
    s.seconds < t.seconds ∨ s.seconds = t.seconds ∧ s.nanos < t.nanos := by
  rw [order, Ordering.then_eq_lt, Int.compare_eq_lt, Int.compare_eq_eq, Nat.compare_eq_lt]

lemma Binary64.compare?_swap (x y : Binary64) : y.compare? x = (x.compare? y).map Ordering.swap := by
  rw [compare?, compare?, Bool.or_comm]
  split
  · rfl
  · exact congrArg some (Int.compare_swap _ _).symm

lemma Binary64.compare?_eq_some {x y : Binary64} {o : Ordering} : x.compare? y = some o ↔
    x.isNaN = false ∧ y.isNaN = false ∧ compare x.key y.key = o := by
  rw [compare?]
  cases x.isNaN <;> cases y.isNaN <;> simp

lemma Binary64.compare?_congr {x y : Binary64} (z : Binary64) (h : x.compare? y = some .eq) :
    z.compare? x = z.compare? y := by
  obtain ⟨hx, hy, hkeys⟩ := compare?_eq_some.mp h
  rw [compare?, compare?, hx, hy, Int.compare_eq_eq.mp hkeys]

namespace Scalar

lemma compare?_swap (a b : Scalar) : b.compare? a = (a.compare? b).map Ordering.swap := by
  cases a <;> cases b
  case bool.bool p q => exact congrArg some (Nat.compare_swap _ _).symm
  case number.number x y => exact Binary64.compare?_swap x y
  case time.time s t => exact congrArg some Std.OrientedCmp.eq_swap
  case text.text s t => exact congrArg some Std.OrientedCmp.eq_swap
  all_goals rfl

lemma compare?_congr {a b : Scalar} (x : Scalar) (h : a.compare? b = some .eq) :
    x.compare? a = x.compare? b := by
  cases a <;> cases b
  case bool.bool p q =>
    obtain rfl : p = q := by
      have := Nat.compare_eq_eq.mp (Option.some.inj h)
      cases p <;> cases q <;> simp_all
    rfl
  case number.number y z =>
    cases x with
    | number x => exact Binary64.compare?_congr x h
    | _ => rfl
  case time.time s t =>
    cases x with
    | time u => exact congrArg some (Std.TransCmp.congr_right (Option.some.inj h))
    | _ => rfl
  case text.text s t =>
    rw [Text.eq_of_order_eq (Option.some.inj h)]
  all_goals cases h

lemma fst_of_map_eq {α β γ : Type} {x : β} {f : α → γ} {o : Option α} {p : β × γ}
    (h : o.map (fun v => (x, f v)) = some p) : x = p.1 := by
  obtain ⟨v, -, rfl⟩ := Option.map_eq_some_iff.mp h
  rfl

lemma property_unique {property : Json.Value} {a b : String} {x y s t : Scalar} {o : Ordering}
    (ha : pair? property a = some (x, s)) (hb : pair? property b = some (y, t))
    (h : s.compare? t = some o) : x = y := by
  cases property with
  | bool p =>
    rw [pair?] at ha hb
    exact (fst_of_map_eq ha).symm.trans (fst_of_map_eq hb)
  | number n =>
    rw [pair?] at ha hb
    exact (fst_of_map_eq ha).symm.trans (fst_of_map_eq hb)
  | string p =>
    rw [pair?] at ha hb
    cases hp : Timestamp.read? p with
    | none =>
      rw [hp] at ha hb
      cases ha
      cases hb
      rfl
    | some u =>
      rw [hp] at ha hb
      -- a text and a timestamp do not compare
      cases hra : Timestamp.read? a <;> cases hrb : Timestamp.read? b <;> rw [hra] at ha <;>
        rw [hrb] at hb <;> cases ha <;> cases hb <;> first | rfl | cases h
  | _ => cases ha

end Scalar

lemma Condition.within?_comm (property : Json.Value) (a b : String) :
    within? property a b = within? property b a := by
  unfold within?
  cases ha : Scalar.pair? property a with
  | none => cases hb : Scalar.pair? property b <;> rfl
  | some p =>
    cases hb : Scalar.pair? property b with
    | none => rfl
    | some q =>
      obtain ⟨x, s⟩ := p
      obtain ⟨y, t⟩ := q
      have hswap := Scalar.compare?_swap s t
      simp only [Option.bind_eq_bind, Option.bind_some, hswap]
      cases ho : s.compare? t with
      | none => rfl
      | some o =>
        obtain rfl := Scalar.property_unique ha hb ho
        cases o with
        | lt => rfl
        | gt => rfl
        | eq =>
          have hx := Scalar.compare?_congr x ho
          simp [hx]

inductive Scalar.Kind
  | bool
  | number
  | time
  | text
deriving DecidableEq

namespace Scalar

def kind? : Scalar → Option Kind
  | bool _ => some .bool
  | number x => if x.isNaN then none else some .number
  | time _ => some .time
  | text _ => some .text

lemma isSome_compare? {a b : Scalar} :
    (a.compare? b).isSome ↔ ∃ k, a.kind? = some k ∧ b.kind? = some k := by
  cases a <;> cases b
  case number.number x y =>
    simp only [compare?, Binary64.compare?, kind?]
    cases x.isNaN <;> cases y.isNaN <;> simp
  all_goals simp [compare?, kind?]

lemma kind?_of_pair? {property : Json.Value} {raw : String} {x s : Scalar} {k : Kind}
    (h : pair? property raw = some (x, s)) (hx : x.kind?.isSome) (hs : s.kind? = some k) :
    x.kind? = some k := by
  cases property with
  | bool b =>
    obtain ⟨v, -, hv⟩ := Option.map_eq_some_iff.mp h
    cases hv
    exact hs
  | number n =>
    obtain ⟨v, -, hv⟩ := Option.map_eq_some_iff.mp h
    cases hv
    cases hn : n.toBinary64.isNaN <;> cases hw : v.isNaN <;> simp_all [kind?]
  | string p =>
    rw [pair?] at h
    split at h <;> cases h <;> exact hs
  | _ => cases h

def Bounds (property : Json.Value) (a b : String) : Prop :=
  ∃ k x s y t, pair? property a = some (x, s) ∧ pair? property b = some (y, t) ∧
    x.kind?.isSome ∧ s.kind? = some k ∧ t.kind? = some k

end Scalar

lemma Condition.isSome_within? {property : Json.Value} {a b : String} :
    (within? property a b).isSome ↔ Scalar.Bounds property a b := by
  have hsome {x y : Scalar} {k : Scalar.Kind} (hx : x.kind? = some k) (hy : y.kind? = some k) :
      ∃ o, x.compare? y = some o :=
    Option.isSome_iff_exists.mp (Scalar.isSome_compare?.mpr ⟨k, hx, hy⟩)
  have hkind {x y : Scalar} {k : Scalar.Kind} {o : Ordering} (h : x.compare? y = some o)
      (hy : y.kind? = some k) : x.kind? = some k := by
    obtain ⟨j, hj, hj'⟩ := Scalar.isSome_compare?.mp (Option.isSome_iff_exists.mpr ⟨o, h⟩)
    rw [hj, ← hj', hy]
  constructor
  · intro h
    obtain ⟨inside, h⟩ := Option.isSome_iff_exists.mp h
    unfold within? at h
    simp only [Option.bind_eq_bind, Option.bind_eq_some_iff] at h
    obtain ⟨⟨x, s⟩, ha, ⟨y, t⟩, hb, o, ho, l, hl, -⟩ := h
    obtain ⟨k, hs, ht⟩ := Scalar.isSome_compare?.mp (Option.isSome_iff_exists.mpr ⟨o, ho⟩)
    have hx : x.kind? = some k := by
      split at hl
      · exact hkind hl ht
      · exact hkind hl hs
    exact ⟨k, x, s, y, t, ha, hb, by rw [hx]; rfl, hs, ht⟩
  · rintro ⟨k, x, s, y, t, ha, hb, hx, hs, ht⟩
    replace hx := Scalar.kind?_of_pair? ha hx hs
    obtain ⟨o, ho⟩ := hsome hs ht
    obtain ⟨l, hl⟩ := hsome hx hs
    obtain ⟨m, hm⟩ := hsome hx ht
    simp only [within?, ha, hb, ho, Option.bind_eq_bind, Option.bind_some]
    split <;> simp only [hl, hm, Option.bind_some] <;> split <;> rfl

end BracketQuery
