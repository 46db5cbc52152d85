import BracketQuery.Proofs.Scalar
import BracketQuery.Sort.Order

/-! When comparing entities by sort keys is an order. A text that is no timestamp has a place between
two timestamps by its letters, and their own places are those in time. -/

namespace BracketQuery

namespace SortOrder

lemma chain_of_transCmp {α : Type} (cmp : α → α → Ordering) [Std.TransCmp cmp] {a b c : α}
    (hab : (cmp a b).isLE) (hbc : (cmp b c).isLE) : cmp a c = (cmp a b).then (cmp b c) := by
  rcases Ordering.isLE_iff_eq_lt_or_eq_eq.mp hab with ha | ha
  · rw [Std.TransCmp.lt_of_lt_of_isLE ha hbc, ha]
    rfl
  · rw [Std.TransCmp.congr_left ha, ha]
    rfl

lemma then_lt_of_isLE {o : Ordering} (h : o.isLE) : o.then .lt = .lt := by
  cases o <;> simp_all

lemma then_comm_of_isLE {o p : Ordering} (ho : o.isLE) (hp : p.isLE) : o.then p = p.then o := by
  cases o <;> cases p <;> simp_all

def texts (s t : String) : Ordering :=
  match Timestamp.read? s, Timestamp.read? t with
  | some a, some b => a.order b
  | _, _ => Text.order s t

def isInstant (s : String) : Bool := (Timestamp.read? s).isSome

lemma texts_swap (s t : String) : texts t s = (texts s t).swap := by
  unfold texts
  cases Timestamp.read? s with
  | none => cases Timestamp.read? t <;> exact Std.OrientedCmp.eq_swap
  | some x =>
    cases Timestamp.read? t with
    | none => exact Std.OrientedCmp.eq_swap
    | some y => exact @Std.OrientedCmp.eq_swap _ Timestamp.order _ _ _

lemma texts_eq_order {s t : String} (h : isInstant s = false ∨ isInstant t = false) :
    texts s t = Text.order s t := by
  unfold texts
  unfold isInstant at h
  split
  · next hs ht => simp [hs, ht] at h
  · rfl

lemma texts_ne_eq {s t : String} (h : isInstant s ≠ isInstant t) : texts s t ≠ .eq := by
  intro he
  rw [texts_eq_order (by cases hs : isInstant s <;> cases ht : isInstant t <;> simp_all)] at he
  exact h (congrArg isInstant (Text.eq_of_order_eq he))

lemma texts_eq_lt {s t : String} (h : isInstant s ≠ isInstant t) (hle : (texts s t).isLE) :
    texts s t = .lt :=
  (Ordering.isLE_iff_eq_lt_or_eq_eq.mp hle).resolve_right (texts_ne_eq h)

lemma texts_lt_or_lt {s t : String} (h : isInstant s ≠ isInstant t) :
    texts s t = .lt ∨ texts t s = .lt := by
  rw [texts_swap s t, Ordering.swap_eq_lt]
  have hne := texts_ne_eq h
  cases ho : texts s t <;> simp_all

structure TextStraddle (a b c : String) : Prop where
  left : isInstant a
  middle : isInstant b = false
  right : isInstant c
  below : texts a b = .lt
  above : texts b c = .lt

lemma texts_chain_plain {a b c : String} (hab : (texts a b).isLE) (hbc : (texts b c).isLE)
    (h₁ : isInstant a = false ∨ isInstant b = false) (h₂ : isInstant b = false ∨ isInstant c = false)
    (h₃ : isInstant a = false ∨ isInstant c = false) :
    texts a c = (texts a b).then (texts b c) := by
  rw [texts_eq_order h₁] at hab ⊢
  rw [texts_eq_order h₂] at hbc ⊢
  rw [texts_eq_order h₃]
  exact chain_of_transCmp Text.order hab hbc

lemma texts_chain_instant {a b c : String} (hab : (texts a b).isLE) (hbc : (texts b c).isLE)
    (ha : isInstant a) (hb : isInstant b) (hc : isInstant c) :
    texts a c = (texts a b).then (texts b c) := by
  obtain ⟨x, hx⟩ := Option.isSome_iff_exists.mp ha
  obtain ⟨y, hy⟩ := Option.isSome_iff_exists.mp hb
  obtain ⟨z, hz⟩ := Option.isSome_iff_exists.mp hc
  simp only [texts, hx, hy, hz] at hab hbc ⊢
  exact chain_of_transCmp Timestamp.order hab hbc

lemma texts_chain {a b c : String} (hab : (texts a b).isLE) (hbc : (texts b c).isLE) :
    texts a c = (texts a b).then (texts b c) ∨
      TextStraddle a b c ∨ TextStraddle b c a ∨ TextStraddle c a b := by
  cases ha : isInstant a <;> cases hb : isInstant b <;> cases hc : isInstant c
  -- with two timestamps the letters of the third text decide, and only then can the chain break
  case true.true.true => exact .inl (texts_chain_instant hab hbc ha hb hc)
  case true.false.true =>
    have hl := texts_eq_lt (by simp [ha, hb]) hab
    have hr := texts_eq_lt (by simp [hb, hc]) hbc
    exact .inr (.inl ⟨ha, hb, hc, hl, hr⟩)
  case true.true.false =>
    have hr := texts_eq_lt (by simp [hb, hc]) hbc
    rcases texts_lt_or_lt (s := a) (t := c) (by simp [ha, hc]) with h | h
    · exact .inl (by rw [h, hr, then_lt_of_isLE hab])
    · exact .inr (.inr (.inl ⟨hb, hc, ha, hr, h⟩))
  case false.true.true =>
    have hl := texts_eq_lt (by simp [ha, hb]) hab
    rcases texts_lt_or_lt (s := a) (t := c) (by simp [ha, hc]) with h | h
    · exact .inl (by rw [h, hl, Ordering.lt_then])
    · exact .inr (.inr (.inr ⟨hc, ha, hb, h, hl⟩))
  all_goals
    exact .inl (texts_chain_plain hab hbc (by simp [ha, hb]) (by simp [hb, hc]) (by simp [ha, hc]))

/-- What a property counts as when it is compared: what comes before all texts, a text, or what comes
after them. -/
inductive Mark
  | low (kindAndKey : Nat × Int)
  | text (s : String)
  | high (kind : Nat)

namespace Mark

def lowOrder : Nat × Int → Nat × Int → Ordering :=
  compareLex (compareOn Prod.fst) (compareOn Prod.snd)

instance : Std.TransCmp lowOrder :=
  inferInstanceAs (Std.TransCmp (compareLex (compareOn Prod.fst) (compareOn Prod.snd)))

def order : Mark → Mark → Ordering
  | low p, low q => lowOrder p q
  | low _, _ => .lt
  | text _, low _ => .gt
  | text s, text t => texts s t
  | text _, high _ => .lt
  | high a, high b => compare a b
  | high _, _ => .gt

def ofProperty : Option Json.Value → Mark
  | none => low (0, 0)
  | some .null => low (1, 0)
  | some (.bool b) => low (2, b.toNat)
  | some (.number n) => low (3, n.toBinary64.rank)
  | some (.string s) => text s
  | some (.array _) => high 4
  | some (.object _) => high 5

lemma order_swap (x y : Mark) : y.order x = (x.order y).swap := by
  cases x <;> cases y
  case low.low p q => exact @Std.OrientedCmp.eq_swap _ lowOrder _ _ _
  case text.text s t => exact texts_swap s t
  case high.high a b => exact (Nat.compare_swap a b).symm
  all_goals rfl

def Straddle (x y z : Mark) : Prop :=
  ∃ a b c, x = text a ∧ y = text b ∧ z = text c ∧ TextStraddle a b c

lemma order_chain {x y z : Mark} (hxy : (x.order y).isLE) (hyz : (y.order z).isLE) :
    x.order z = (x.order y).then (y.order z) ∨
      Straddle x y z ∨ Straddle y z x ∨ Straddle z x y := by
  cases x <;> cases y <;> cases z
  case low.low.low p q r => exact .inl (chain_of_transCmp lowOrder hxy hyz)
  case high.high.high a b c => exact .inl (chain_of_transCmp compare hxy hyz)
  case text.text.text a b c =>
    rcases texts_chain hxy hyz with h | h | h | h
    · exact .inl h
    · exact .inr (.inl ⟨a, b, c, rfl, rfl, rfl, h⟩)
    · exact .inr (.inr (.inl ⟨b, c, a, rfl, rfl, rfl, h⟩))
    · exact .inr (.inr (.inr ⟨c, a, b, rfl, rfl, rfl, h⟩))
  all_goals simp_all [order, then_lt_of_isLE]

end Mark

lemma properties_eq_order (x y : Option Json.Value) :
    properties x y = (Mark.ofProperty x).order (Mark.ofProperty y) := by
  rcases x with _ | (_ | b | m | s | _ | _) <;> rcases y with _ | (_ | c | n | t | _ | _)
  case some.bool.some.bool => cases b <;> cases c <;> rfl
  case some.number.some.number =>
    simp [properties, values, Mark.ofProperty, Mark.order, Mark.lowOrder, compareLex, compareOn]
  all_goals rfl

def mark (k : SortKey) (v : Json.Value) : Mark := Mark.ofProperty (v.resolve (segments k))

lemma byKey_eq (k : SortKey) (v w : Json.Value) :
    byKey k v w =
      if k.isDescending then ((mark k v).order (mark k w)).swap else (mark k v).order (mark k w) := by
  simp only [byKey, properties_eq_order, mark]

lemma byKey_swap (k : SortKey) (v w : Json.Value) : byKey k w v = (byKey k v w).swap := by
  rw [byKey_eq, byKey_eq, Mark.order_swap (mark k v) (mark k w)]
  split <;> rfl

lemma byKeys_swap (ks : List SortKey) (v w : Json.Value) : byKeys ks w v = (byKeys ks v w).swap := by
  induction ks with
  | nil => rfl
  | cons k ks ih => rw [byKeys, byKeys, Ordering.swap_then, byKey_swap, ih]

def text? (k : SortKey) (v : Json.Value) : Option String :=
  match v.resolve (segments k) with
  | some (.string s) => some s
  | _ => none

/-- The key finds timestamps in the outer two entities, in the middle one a text that is none, and
it puts this text between them. -/
structure Straddles (k : SortKey) (u v w : Json.Value) : Prop where
  left : (text? k u).any isInstant
  middle : (text? k v).any fun s => !isInstant s
  right : (text? k w).any isInstant
  below : byKey k u v = .lt
  above : byKey k v w = .lt

lemma text?_of_mark {k : SortKey} {v : Json.Value} {s : String} (h : mark k v = .text s) :
    text? k v = some s := by
  unfold mark Mark.ofProperty at h
  unfold text?
  split at h <;> simp_all

lemma straddles_of_mark {k : SortKey} {u v w : Json.Value}
    (h : Mark.Straddle (mark k u) (mark k v) (mark k w)) :
    if k.isDescending then Straddles k w v u else Straddles k u v w := by
  obtain ⟨a, b, c, ha, hb, hc, ht⟩ := h
  have hu := text?_of_mark ha
  have hv := text?_of_mark hb
  have hw := text?_of_mark hc
  have hab : (mark k u).order (mark k v) = .lt := by rw [ha, hb]; exact ht.below
  have hbc : (mark k v).order (mark k w) = .lt := by rw [hb, hc]; exact ht.above
  have hba : (mark k v).order (mark k u) = .gt := by rw [Mark.order_swap, hab]; rfl
  have hcb : (mark k w).order (mark k v) = .gt := by rw [Mark.order_swap, hbc]; rfl
  cases hd : k.isDescending
  · exact ⟨by simp [hu, ht.left], by simp [hv, ht.middle], by simp [hw, ht.right],
      by simp [byKey_eq, hd, hab], by simp [byKey_eq, hd, hbc]⟩
  · exact ⟨by simp [hw, ht.right], by simp [hv, ht.middle], by simp [hu, ht.left],
      by simp [byKey_eq, hd, hcb], by simp [byKey_eq, hd, hba]⟩

lemma byKey_chain {k : SortKey} {u v w : Json.Value} (huv : (byKey k u v).isLE)
    (hvw : (byKey k v w).isLE) :
    byKey k u w = (byKey k u v).then (byKey k v w) ∨
      Straddles k u v w ∨ Straddles k v w u ∨ Straddles k w u v := by
  cases hd : k.isDescending
  · have hs {x y z : Json.Value} (h : Mark.Straddle (mark k x) (mark k y) (mark k z)) :
        Straddles k x y z := by simpa [hd] using straddles_of_mark h
    simp only [byKey_eq, hd, Bool.false_eq_true, if_false] at huv hvw ⊢
    exact (Mark.order_chain huv hvw).imp_right (Or.imp hs (Or.imp hs hs))
  · have hs {x y z : Json.Value} (h : Mark.Straddle (mark k x) (mark k y) (mark k z)) :
        Straddles k z y x := by simpa [hd] using straddles_of_mark h
    simp only [byKey_eq, hd, if_true, ← Mark.order_swap] at huv hvw ⊢
    rcases Mark.order_chain hvw huv with h | h | h | h
    · exact .inl (h.trans (then_comm_of_isLE hvw huv))
    · exact .inr (.inl (hs h))
    · exact .inr (.inr (.inr (hs h)))
    · exact .inr (.inr (.inl (hs h)))

/-- Wherever a key that comes after keys equal on three entities puts a text between two timestamps,
these two stand in that order by it and the keys after it. -/
def Chronological (ks : List SortKey) (s : Json.Value → Prop) : Prop :=
  ∀ before k after, ks = before ++ k :: after → ∀ u v w, s u → s v → s w →
    byKeys before u v = .eq → byKeys before v w = .eq → Straddles k u v w →
      byKeys (k :: after) u w = .lt

def alikeBy (k : SortKey) (s : Json.Value → Prop) (u v : Json.Value) : Prop :=
  s v ∧ byKey k u v = .eq

lemma byKey_self (k : SortKey) (v : Json.Value) : byKey k v v = .eq := by
  have h := byKey_swap k v v
  cases ho : byKey k v v <;> simp_all

lemma byKey_eq_comm {k : SortKey} {u v : Json.Value} (h : byKey k u v = .eq) : byKey k v u = .eq := by
  rw [byKey_swap, h]
  rfl

lemma Straddles.byKey_ne_eq {k : SortKey} {u v w : Json.Value} (h : Straddles k u v w) :
    byKey k u v ≠ .eq := by
  rw [h.below]
  decide

lemma byKey_eq_trans {k : SortKey} {u v w : Json.Value} (huv : byKey k u v = .eq)
    (hvw : byKey k v w = .eq) : byKey k u w = .eq := by
  rcases byKey_chain (Ordering.isLE_of_eq_eq huv) (Ordering.isLE_of_eq_eq hvw) with
    h | h | h | h
  · rw [h, huv, hvw]
    rfl
  · exact absurd huv h.byKey_ne_eq
  · exact absurd hvw h.byKey_ne_eq
  · have hb := h.above
    rw [huv] at hb
    cases hb

lemma byKeys_cons_of_eq {k : SortKey} {v w : Json.Value} (ks : List SortKey)
    (h : byKey k v w = .eq) : byKeys (k :: ks) v w = byKeys ks v w := by
  rw [byKeys, h]
  rfl

lemma byKeys_cons_eq_eq {k : SortKey} {ks : List SortKey} {v w : Json.Value} :
    byKeys (k :: ks) v w = .eq ↔ byKey k v w = .eq ∧ byKeys ks v w = .eq := by
  rw [byKeys, Ordering.then_eq_eq]

lemma byKeys_cons_of_lt {k : SortKey} {v w : Json.Value} (ks : List SortKey)
    (h : byKey k v w = .lt) : byKeys (k :: ks) v w = .lt := by
  rw [byKeys, h]
  rfl

lemma alikeBy_eq {k : SortKey} {s : Json.Value → Prop} {e u v : Json.Value} (hu : alikeBy k s e u)
    (hv : alikeBy k s e v) : byKey k u v = .eq :=
  byKey_eq_trans (byKey_eq_comm hu.2) hv.2

lemma Chronological.tail {k : SortKey} {ks : List SortKey} {s : Json.Value → Prop}
    (h : Chronological (k :: ks) s) (e : Json.Value) : Chronological ks (alikeBy k s e) := by
  intro before l after hks u v w hu hv hw huv hvw hs
  apply h (k :: before) l after (by rw [hks]; rfl) u v w hu.1 hv.1 hw.1 _ _ hs
  · exact byKeys_cons_eq_eq.mpr ⟨alikeBy_eq hu hv, huv⟩
  · exact byKeys_cons_eq_eq.mpr ⟨alikeBy_eq hv hw, hvw⟩

lemma Chronological.trans {ks : List SortKey} {s : Json.Value → Prop} (h : Chronological ks s)
    {u v w : Json.Value} (hu : s u) (hv : s v) (hw : s w) (huv : byKeys ks u v ≠ .gt)
    (hvw : byKeys ks v w ≠ .gt) : byKeys ks u w ≠ .gt := by
  induction ks generalizing s with
  | nil => simp [byKeys]
  | cons k ks ih =>
    have hk {x y : Json.Value} (hxy : byKeys (k :: ks) x y ≠ .gt) : (byKey k x y).isLE := by
      rw [← Ordering.ne_gt_iff_isLE]
      intro hg
      exact hxy (by rw [byKeys, hg]; rfl)
    have hback {x y : Json.Value} (hxy : byKeys (k :: ks) x y ≠ .gt) : byKeys (k :: ks) y x ≠ .lt := by
      rw [byKeys_swap (k :: ks) x y, ne_eq, Ordering.swap_eq_lt]
      exact hxy
    have head {x y z : Json.Value} (hx : s x) (hy : s y) (hz : s z) (hs : Straddles k x y z) :
        byKeys (k :: ks) x z = .lt := h [] k ks rfl x y z hx hy hz rfl rfl hs
    rcases byKey_chain (hk huv) (hk hvw) with hc | hs | hs | hs
    · rcases Ordering.isLE_iff_eq_lt_or_eq_eq.mp (hk huv) with h₁ | h₁
      · simp [byKeys_cons_of_lt ks (show byKey k u w = .lt by rw [hc, h₁]; rfl)]
      · rw [h₁, Ordering.eq_then] at hc
        rcases Ordering.isLE_iff_eq_lt_or_eq_eq.mp (hk hvw) with h₂ | h₂
        · simp [byKeys_cons_of_lt ks (hc.trans h₂)]
        · have h₃ := hc.trans h₂
          rw [byKeys_cons_of_eq ks h₁] at huv
          rw [byKeys_cons_of_eq ks h₂] at hvw
          rw [byKeys_cons_of_eq ks h₃]
          exact ih (h.tail u) ⟨hu, byKey_self k u⟩ ⟨hv, h₁⟩ ⟨hw, h₃⟩ huv hvw
    · simp [head hu hv hw hs]
    · exact absurd (head hv hw hu hs) (hback huv)
    · exact absurd (head hw hu hv hs) (hback hvw)

lemma IsPreorderOn.tail {k : SortKey} {ks : List SortKey} {s : Json.Value → Prop}
    (h : IsPreorderOn (byKeys (k :: ks)) s) (e : Json.Value) :
    IsPreorderOn (byKeys ks) (alikeBy k s e) := by
  refine ⟨fun v w _ _ => byKeys_swap ks v w, ?_⟩
  intro u v w hu hv hw huv hvw
  have ht := h.trans u v w hu.1 hv.1 hw.1
  rw [byKeys_cons_of_eq ks (alikeBy_eq hu hv), byKeys_cons_of_eq ks (alikeBy_eq hv hw),
    byKeys_cons_of_eq ks (alikeBy_eq hu hw)] at ht
  exact ht huv hvw

lemma IsPreorderOn.straddle {k : SortKey} {ks : List SortKey} {s : Json.Value → Prop}
    (h : IsPreorderOn (byKeys (k :: ks)) s) {u v w : Json.Value} (hu : s u) (hv : s v) (hw : s w)
    (hs : Straddles k u v w) : byKeys (k :: ks) u w = .lt := by
  have huv := byKeys_cons_of_lt ks hs.below
  have hvw := byKeys_cons_of_lt ks hs.above
  cases ho : byKeys (k :: ks) u w with
  | lt => rfl
  | gt => exact absurd ho (h.trans u v w hu hv hw (by simp [huv]) (by simp [hvw]))
  | eq =>
    have hwu : byKeys (k :: ks) w u ≠ .gt := by
      rw [byKeys_swap (k :: ks) u w, ho]
      decide
    have hwv := h.trans w u v hw hu hv hwu (by simp [huv])
    rw [byKeys_swap (k :: ks) v w, hvw] at hwv
    exact absurd rfl hwv

lemma IsPreorderOn.chronological {ks : List SortKey} {s : Json.Value → Prop}
    (h : IsPreorderOn (byKeys ks) s) : Chronological ks s := by
  intro before
  induction before generalizing ks s with
  | nil =>
    rintro k after rfl u v w hu hv hw - - hs
    exact h.straddle hu hv hw hs
  | cons l before ih =>
    rintro k after rfl u v w hu hv hw huv hvw hs
    obtain ⟨huv, hb⟩ := byKeys_cons_eq_eq.mp huv
    obtain ⟨hvw, hb'⟩ := byKeys_cons_eq_eq.mp hvw
    exact ih (h.tail u) k after rfl u v w ⟨hu, byKey_self l u⟩ ⟨hv, huv⟩
      ⟨hw, byKey_eq_trans huv hvw⟩ hb hb' hs

def nested (path : List String) (s : String) : Json.Value :=
  path.foldr (fun key v => .object [(key, v)]) (.string s)

lemma resolve_nested (path : List String) (s : String) :
    (nested path s).resolve path = some (.string s) := by
  have hw : (nested path s).walk? path = some (.string s) := by
    induction path with
    | nil => rfl
    | cons key path ih => simpa [nested, Json.Value.walk?, Json.Value.child?, Json.Value.member?] using ih
  rw [Json.Value.resolve, hw]
  rfl

def date : String := "2024-01-01"

def dateAndMore : String := "2024-01-01A"

def midnightEast : String := "2024-01-01T00:00:00+05:00"

lemma isInstant_date : isInstant date := by decide +kernel

lemma isInstant_dateAndMore : isInstant dateAndMore = false := by decide +kernel

lemma isInstant_midnightEast : isInstant midnightEast := by decide +kernel

lemma texts_cycle : texts date dateAndMore = .lt ∧ texts dateAndMore midnightEast = .lt ∧
    texts date midnightEast = .gt := by decide +kernel

lemma exists_straddles (k : SortKey) :
    ∃ u v w, Straddles k u v w ∧ byKey k u w = .gt := by
  let entity (s : String) : Json.Value := nested (segments k) s
  have ht (s : String) : text? k (entity s) = some s := by simp [entity, text?, resolve_nested]
  have hm (s : String) : mark k (entity s) = .text s := by
    simp [entity, mark, resolve_nested, Mark.ofProperty]
  obtain ⟨hl, hr, hg⟩ := texts_cycle
  have hr' : texts midnightEast dateAndMore = .gt := by rw [texts_swap, hr]; rfl
  have hl' : texts dateAndMore date = .gt := by rw [texts_swap, hl]; rfl
  have hg' : texts midnightEast date = .lt := by rw [texts_swap, hg]; rfl
  cases hd : k.isDescending
  · refine ⟨entity date, entity dateAndMore, entity midnightEast, ⟨?_, ?_, ?_, ?_, ?_⟩, ?_⟩ <;>
      simp [ht, hm, byKey_eq, hd, Mark.order, isInstant_date, isInstant_dateAndMore,
        isInstant_midnightEast, hl, hr, hg]
  · refine ⟨entity midnightEast, entity dateAndMore, entity date, ⟨?_, ?_, ?_, ?_, ?_⟩, ?_⟩ <;>
      simp [ht, hm, byKey_eq, hd, Mark.order, isInstant_date, isInstant_dateAndMore,
        isInstant_midnightEast, hl', hr', hg']

lemma eq_nil_of_isPreorderOn {ks : List SortKey} (h : IsPreorderOn (byKeys ks) fun _ => True) :
    ks = [] := by
  cases ks with
  | nil => rfl
  | cons k ks =>
    obtain ⟨u, v, w, hs, hg⟩ := exists_straddles k
    have hl := h.straddle trivial trivial trivial hs
    rw [byKeys, hg] at hl
    cases hl

lemma isPreorderOn_iff_chronological {ks : List SortKey} {s : Json.Value → Prop} :
    IsPreorderOn (byKeys ks) s ↔ Chronological ks s :=
  ⟨IsPreorderOn.chronological, fun h =>
    ⟨fun v w _ _ => byKeys_swap ks v w, fun _ _ _ hu hv hw => h.trans hu hv hw⟩⟩

/-- Exchanging two entities always reverses the comparison. On a class of entities it is an order
exactly when the class is chronological, and on all entities only without keys. -/
theorem byKeys_isPreorderOn_iff (ks : List SortKey) :
    (∀ v w, byKeys ks w v = (byKeys ks v w).swap) ∧
    (∀ s, IsPreorderOn (byKeys ks) s ↔ Chronological ks s) ∧
    ((IsPreorderOn (byKeys ks) fun _ => True) ↔ ks = []) := by
  refine ⟨byKeys_swap ks, fun s => isPreorderOn_iff_chronological, eq_nil_of_isPreorderOn, ?_⟩
  rintro rfl
  exact ⟨fun _ _ _ _ => rfl, fun _ _ _ _ _ _ _ _ => by simp [byKeys]⟩

/-- Three entities that go up twice by one key and down in sum; sorted, the first of them comes after
the second. -/
theorem byKeys_goes_round :
    let key : SortKey := ⟨"d", "d", .ascending⟩
    let entity (s : String) : Json.Value := .object [("d", .string s)]
    byKeys [key] (entity date) (entity dateAndMore) = .lt ∧
    byKeys [key] (entity dateAndMore) (entity midnightEast) = .lt ∧
    byKeys [key] (entity date) (entity midnightEast) = .gt ∧
    (sortEntities [key] [entity midnightEast, entity dateAndMore, entity date]).map
      (List.map (text? key)) = some [some dateAndMore, some midnightEast, some date] ∧
    ¬ IsPreorderOn (byKeys [key]) fun _ => True := by
  intro key entity
  have hl : byKeys [key] (entity date) (entity dateAndMore) = .lt := by decide +kernel
  have hr : byKeys [key] (entity dateAndMore) (entity midnightEast) = .lt := by decide +kernel
  have hg : byKeys [key] (entity date) (entity midnightEast) = .gt := by decide +kernel
  refine ⟨hl, hr, hg, by decide +kernel, ?_⟩
  intro h
  apply h.trans (entity date) (entity dateAndMore) (entity midnightEast) trivial trivial trivial
  · simp [hl]
  · simp [hr]
  · exact hg

end SortOrder

end BracketQuery
