import BracketQuery.Proofs.Assembly.Tables
import BracketQuery.Proofs.Condition.Meaning
import BracketQuery.Proofs.Sort.Stable
import BracketQuery.Proofs.Text.LetterCase

/-! The case of a path does not matter, where no object has two members whose names differ only in
case. -/

namespace BracketQuery

namespace Json.Value

inductive Subvalue : Value → Value → Prop
  | refl (v : Value) : Subvalue v v
  | item {v w : Value} {items : List Value} (hw : w ∈ items) (h : Subvalue v w) :
    Subvalue v (.array items)
  | member {v : Value} {m : String × Value} {members : List (String × Value)} (hm : m ∈ members)
    (h : Subvalue v m.2) : Subvalue v (.object members)

lemma Subvalue.trans {u v w : Value} (huv : Subvalue u v) (hvw : Subvalue v w) : Subvalue u w := by
  induction hvw with
  | refl => exact huv
  | item hw _ ih => exact .item hw ih
  | member hm _ ih => exact .member hm ih

lemma mem_of_member? {k : String} {ms : List (String × Value)} {v : Value}
    (h : member? k ms = some v) : ∃ m ∈ ms, m.2 = v := by
  unfold member? at h
  split at h
  · next w hw =>
    exact ⟨(k, w), mem_of_lookup hw, Option.some.inj h⟩
  · obtain ⟨m, hm, rfl⟩ := Option.map_eq_some_iff.mp h
    exact ⟨m, List.mem_of_find?_eq_some hm, rfl⟩

lemma subvalue_of_child? {k : String} {v w : Value} (h : child? k v = some w) : Subvalue w v := by
  cases v with
  | array items =>
    obtain ⟨i, -, hi⟩ := Option.bind_eq_some_iff.mp h
    exact .item (List.mem_of_getElem? hi) (.refl w)
  | object members =>
    obtain ⟨m, hm, rfl⟩ := mem_of_member? h
    exact .member hm (.refl m.2)
  | _ => cases h

def NamesDiffer (members : List (String × Value)) : Prop :=
  members.Pairwise fun m n => Text.eqIgnoreAsciiCase m.1 n.1 = false

instance (members : List (String × Value)) : Decidable (NamesDiffer members) :=
  inferInstanceAs (Decidable (List.Pairwise _ _))

def IsUnambiguous (v : Value) : Prop :=
  ∀ members, Subvalue (.object members) v → NamesDiffer members

lemma IsUnambiguous.mono {v w : Value} (h : IsUnambiguous v) (hw : Subvalue w v) :
    IsUnambiguous w :=
  fun members hm => h members (hm.trans hw)

lemma member?_eq_find? {members : List (String × Value)} (h : NamesDiffer members) (k : String) :
    member? k members = (members.find? fun m => Text.eqIgnoreAsciiCase m.1 k).map Prod.snd := by
  induction members with
  | nil => rfl
  | cons m members ih =>
    obtain ⟨hm, hrest⟩ := List.pairwise_cons.mp h
    obtain ⟨name, v⟩ := m
    by_cases hk : k = name
    · subst hk
      simp [member?, Text.eqIgnoreAsciiCase_refl]
    · have hlookup := lookup_cons_of_ne (l := members) v hk
      cases hc : Text.eqIgnoreAsciiCase name k with
      | true =>
        -- a later name that is spelled like the key would differ from this one only in case
        have hnone : List.lookup k members = none := by
          refine List.lookup_eq_none_iff.mpr fun n hn => bne_iff_ne.mpr ?_
          rintro rfl
          rw [hm n hn] at hc
          cases hc
        simp [member?, hlookup, hnone, hc]
      | false => simpa [member?, hlookup, hc] using ih hrest

lemma member?_of_eqIgnoreAsciiCase {members : List (String × Value)} (h : NamesDiffer members)
    {k l : String} (hkl : Text.eqIgnoreAsciiCase k l = true) :
    member? k members = member? l members := by
  simp only [member?_eq_find? h, Text.eqIgnoreAsciiCase_congr hkl]

lemma child?_of_eqIgnoreAsciiCase {v : Value} (hv : v.IsUnambiguous) {k l : String}
    (h : Text.eqIgnoreAsciiCase k l = true) : child? k v = child? l v := by
  cases v with
  | array items => simp only [child?, Text.readNat?_of_eqIgnoreAsciiCase _ h]
  | object members => exact member?_of_eqIgnoreAsciiCase (hv members (.refl _)) h
  | _ => rfl

lemma walk?_of_sameButCase {xs ys : List String} (h : Text.SameButCase xs ys) {v : Value}
    (hv : v.IsUnambiguous) : walk? xs v = walk? ys v := by
  induction h generalizing v with
  | nil => rfl
  | cons hxy _ ih =>
    rw [walk?, walk?, child?_of_eqIgnoreAsciiCase hv hxy]
    exact Option.bind_congr fun w hw => ih (hv.mono (subvalue_of_child? hw))

lemma resolve_of_sameButCase {xs ys : List String} (h : Text.SameButCase xs ys) {v : Value}
    (hv : v.IsUnambiguous) : v.resolve xs = v.resolve ys := by
  rw [resolve, resolve, walk?_of_sameButCase h hv]

@[simp] lemma isUnambiguous_scalar {v : Value} (ha : ∀ items, v ≠ .array items)
    (ho : ∀ members, v ≠ .object members) : IsUnambiguous v := by
  rintro members (_ | _ | _)
  · exact absurd rfl (ho members)
  · exact absurd rfl (ha _)
  · exact absurd rfl (ho _)

@[simp] lemma isUnambiguous_array {items : List Value} :
    IsUnambiguous (.array items) ↔ ∀ v ∈ items, IsUnambiguous v := by
  constructor
  · intro h v hv
    exact h.mono (.item hv (.refl v))
  · rintro h members (_ | ⟨hw, hm⟩)
    exact h _ hw members hm

@[simp] lemma isUnambiguous_object {members : List (String × Value)} :
    IsUnambiguous (.object members) ↔ NamesDiffer members ∧ ∀ m ∈ members, IsUnambiguous m.2 := by
  constructor
  · intro h
    exact ⟨h members (.refl _), fun m hm => h.mono (.member hm (.refl m.2))⟩
  · rintro ⟨hn, h⟩ ms (_ | _ | ⟨hm, hs⟩)
    · exact hn
    · exact h _ hm ms hs

end Json.Value

namespace Leaf

variable {l m : Leaf}

lemma sameButCase_segments (h : Text.eqIgnoreAsciiCase l.path m.path = true) :
    Text.SameButCase l.segments m.segments :=
  (Text.sameButCase_pieces (by decide) h).filter_ne_empty

lemma test_congr (ho : l.operator = m.operator) (hv : l.values = m.values)
    (property : Json.Value) :
    (Condition.ofLeaf l l.comparison).test property =
      (Condition.ofLeaf m m.comparison).test property := by
  obtain ⟨_, _, _, operator, values⟩ := l
  obtain ⟨_, _, _, operator', values'⟩ := m
  obtain rfl : operator = operator' := ho
  obtain rfl : values = values' := hv
  cases operator <;> rfl

lemma holds_of_sameButCase (hp : Text.eqIgnoreAsciiCase l.path m.path = true)
    (ho : l.operator = m.operator) (hv : l.values = m.values) (hn : l.operator ≠ .none)
    {entity : Json.Value} (he : entity.IsUnambiguous) : l.holds entity = m.holds entity := by
  have hm : m.operator ≠ .none := ho ▸ hn
  have hresolve := Json.Value.resolve_of_sameButCase (sameButCase_segments hp) he
  cases hr : entity.resolve l.segments with
  | none => rw [holds_of_absent hn hr, holds_of_absent hm (hresolve ▸ hr), ho]
  | some property =>
    rw [holds_of_present hn hr, holds_of_present hm (hresolve ▸ hr), test_congr ho hv]

end Leaf

namespace SortOrder

def FieldsSameButCase (ks ls : List SortKey) : Prop :=
  List.Forall₂ (fun k l => Text.eqIgnoreAsciiCase k.field l.field = true ∧ k.direction = l.direction)
    ks ls

variable {k l : SortKey} {v w : Json.Value}

lemma byKey_of_sameButCase (hf : Text.eqIgnoreAsciiCase k.field l.field = true)
    (hd : k.direction = l.direction) (hv : v.IsUnambiguous) (hw : w.IsUnambiguous) :
    byKey k v w = byKey l v w := by
  have hsegs : Text.SameButCase (segments k) (segments l) :=
    Text.sameButCase_pieces (by decide) hf
  rw [byKey, byKey, Json.Value.resolve_of_sameButCase hsegs hv,
    Json.Value.resolve_of_sameButCase hsegs hw, SortKey.isDescending, SortKey.isDescending, hd]

lemma byKeys_of_sameButCase {ks ls : List SortKey} (h : FieldsSameButCase ks ls)
    (hv : v.IsUnambiguous) (hw : w.IsUnambiguous) : byKeys ks v w = byKeys ls v w := by
  induction h with
  | nil => rfl
  | cons hkl _ ih => rw [byKeys, byKeys, byKey_of_sameButCase hkl.1 hkl.2 hv hw, ih]

end SortOrder

/-- On values in which no object has two names that differ only in case, two paths that differ only in
case lead to the same property. So conditions at such paths hold of the same entities, and sort keys
with such fields give the same order. -/
theorem Json.Value.resolve_anyCase :
    (∀ xs ys, Text.SameButCase xs ys → ∀ v : Json.Value, v.IsUnambiguous →
      v.resolve xs = v.resolve ys) ∧
    (∀ l m : Leaf, Text.eqIgnoreAsciiCase l.path m.path = true → l.operator = m.operator →
      l.values = m.values → l.operator ≠ .none →
      ∃ c d, Registry.standard.build l = .ok c ∧ Registry.standard.build m = .ok d ∧
        ∀ v : Json.Value, v.IsUnambiguous → c.holds v = d.holds v) ∧
    ∀ ks ls, SortOrder.FieldsSameButCase ks ls → ∀ es : List Json.Value,
      (∀ e ∈ es, e.IsUnambiguous) → sortEntities ks es = sortEntities ls es := by
  refine ⟨fun xs ys h v hv => resolve_of_sameButCase h hv, ?_, ?_⟩
  · intro l m hp ho hvalues hn
    have hm : m.operator ≠ .none := ho ▸ hn
    refine ⟨_, _, Registry.build_standard hn, Registry.build_standard hm, fun v hv => ?_⟩
    rw [← Leaf.holds_eq hn, ← Leaf.holds_eq hm]
    exact Leaf.holds_of_sameButCase hp ho hvalues hn hv
  · intro ks ls h es he
    exact sort?_congr fun v hv w hw => SortOrder.byKeys_of_sameButCase h (he v hv) (he w hw)

def parcels : List Json.Value :=
  let parcel (weight : Json.Value) : Json.Value :=
    .object [("Load", .object [("ID", .null), ("Parts", .array [.null, .object [("kG", weight)]])])]
  [parcel (.number (.integer 5)), parcel (.bool true), parcel (.string "5"), .object []]

theorem Json.Value.resolve_anyCase_parcels :
    let l : Leaf := ⟨"w", some "root", "load.parts.1.KG", .isIn, .ofList ["5", "x"]⟩
    let m : Leaf := ⟨"w", some "root", "LOAD.Parts.1.kG", .isIn, .ofList ["5", "x"]⟩
    let k : SortKey := ⟨l.path, "-load.parts.1.KG", .descending⟩
    let j : SortKey := ⟨m.path, "-LOAD.Parts.1.kG", .descending⟩
    (∀ e ∈ parcels, e.IsUnambiguous) ∧ Text.eqIgnoreAsciiCase l.path m.path = true ∧
    l.operator ≠ .none ∧ Text.SameButCase l.segments m.segments ∧
    SortOrder.FieldsSameButCase [k] [j] ∧
    (∀ e ∈ parcels, e.resolve l.segments = e.resolve m.segments) ∧
    (∃ c d, Registry.standard.build l = .ok c ∧ Registry.standard.build m = .ok d ∧
      ∀ e ∈ parcels, c.holds e = d.holds e) ∧
    sortEntities [k] parcels = sortEntities [j] parcels ∧
    parcels.map l.holds = [true, false, true, false] := by
  intro l m k j
  have he : ∀ e ∈ parcels, e.IsUnambiguous := by
    simp +decide [parcels]
  have hp : Text.eqIgnoreAsciiCase l.path m.path = true := by decide +kernel
  have hs : Text.SameButCase l.segments m.segments := by decide +kernel
  have hk : SortOrder.FieldsSameButCase [k] [j] := .cons ⟨hp, rfl⟩ .nil
  obtain ⟨hresolve, hholds, hsort⟩ := resolve_anyCase
  obtain ⟨c, d, hc, hd, h⟩ := hholds l m hp rfl rfl nofun
  exact ⟨he, hp, nofun, hs, hk, fun e hm => hresolve _ _ hs e (he e hm),
    ⟨c, d, hc, hd, fun e hm => h e (he e hm)⟩, hsort _ _ hk parcels he, by decide +kernel⟩

end BracketQuery
