import BracketQuery.Proofs.Condition.Element
import BracketQuery.Proofs.Json.PathCase

/-! Where a path leads: one step after the other, and null is absent at its end. -/

namespace BracketQuery.Json.Value

variable {v w : Value} {xs ys : List String} {key : String} {members : List (String × Value)}

/-- The member that a name stands for: the first one that is spelled so and, only where there is
none, the first one that is spelled so up to case. -/
inductive IsMemberFor (key : String) (members : List (String × Value)) : Value → Prop
  | exact {before after : List (String × Value)} {w : Value}
    (h : members = before ++ (key, w) :: after) (hb : ∀ m ∈ before, m.1 ≠ key) :
    IsMemberFor key members w
  | anyCase {before after : List (String × Value)} {name : String} {w : Value}
    (h : members = before ++ (name, w) :: after) (hn : ∀ m ∈ members, m.1 ≠ key)
    (hname : Text.eqIgnoreAsciiCase name key = true)
    (hb : ∀ m ∈ before, Text.eqIgnoreAsciiCase m.1 key = false) : IsMemberFor key members w

inductive Leads : Value → List String → Value → Prop
  | refl (v : Value) : Leads v [] v
  | member {members : List (String × Value)} {key : String} {keys : List String} {w u : Value}
    (hw : IsMemberFor key members w) (h : Leads w keys u) : Leads (.object members) (key :: keys) u
  | item {items : List Value} {key : String} {keys : List String} {i : Nat} {w u : Value}
    (hi : Text.readNat? Text.word64Top key.toList = some i) (hw : items[i]? = some w)
    (h : Leads w keys u) : Leads (.array items) (key :: keys) u

lemma isNull_eq_false : v.isNull = false ↔ v ≠ .null := by
  cases v <;> simp [isNull]

lemma lookup_eq_none : members.lookup key = none ↔ ∀ m ∈ members, m.1 ≠ key := by
  rw [List.lookup_eq_none_iff]
  exact forall₂_congr fun m _ => bne_iff_ne.trans ne_comm

lemma member?_eq_some_iff : member? key members = some w ↔ IsMemberFor key members w := by
  constructor
  · intro h
    unfold member? at h
    split at h
    · next u hu =>
      cases h
      obtain ⟨before, after, hm, hb⟩ := List.lookup_eq_some_iff.mp hu
      exact .exact hm fun m hmem => (bne_iff_ne.mp (hb m hmem)).symm
    · next hn =>
      obtain ⟨⟨name, u⟩, hu, rfl⟩ := Option.map_eq_some_iff.mp h
      obtain ⟨hname, before, after, hm, hb⟩ := List.find?_eq_some_iff_append.mp hu
      exact .anyCase hm (lookup_eq_none.mp hn) hname fun m hmem => by simpa using hb m hmem
  · intro h
    cases h with
    | exact h hb =>
      have hlookup : members.lookup key = some w :=
        List.lookup_eq_some_iff.mpr ⟨_, _, h, fun m hmem => bne_iff_ne.mpr (hb m hmem).symm⟩
      rw [member?, hlookup]
    | @anyCase _ _ name _ h hn hname hb =>
      have hfind : members.find? (fun m => Text.eqIgnoreAsciiCase m.1 key) = some (name, w) :=
        List.find?_eq_some_iff_append.mpr ⟨hname, _, _, h, fun m hmem => by simp [hb m hmem]⟩
      rw [member?, lookup_eq_none.mpr hn, hfind, Option.map_some]

lemma member?_eq_none (h : ∀ m ∈ members, Text.eqIgnoreAsciiCase m.1 key = false) :
    member? key members = none := by
  refine Option.eq_none_iff_forall_ne_some.mpr fun w hw => ?_
  cases member?_eq_some_iff.mp hw with
  | exact hm _ =>
    have hself := h (key, w) (by simp [hm])
    rw [Text.eqIgnoreAsciiCase_refl] at hself
    cases hself
  | @anyCase _ _ name _ hm _ hname _ =>
    rw [h (name, w) (by simp [hm])] at hname
    cases hname

lemma walk?_eq_some_iff : walk? xs v = some w ↔ Leads v xs w := by
  constructor
  · intro h
    induction xs generalizing v with
    | nil =>
      cases h
      exact .refl w
    | cons x xs ih =>
      obtain ⟨u, hu, hw⟩ := Option.bind_eq_some_iff.mp h
      cases v with
      | array items =>
        obtain ⟨i, hi, hitem⟩ := Option.bind_eq_some_iff.mp hu
        exact .item hi hitem (ih hw)
      | object members => exact .member (member?_eq_some_iff.mp hu) (ih hw)
      | _ => cases hu
  · intro h
    induction h with
    | refl v => rfl
    | member hw _ ih => rw [walk?, child?, member?_eq_some_iff.mpr hw, Option.bind_some, ih]
    | item hi hw _ ih =>
      rw [walk?, child?, hi]
      exact (congrArg (Option.bind · _) hw).trans ih

lemma Leads.subvalue (h : Leads v xs w) : Subvalue w v := by
  induction h with
  | refl v => exact .refl v
  | member hw _ ih =>
    obtain ⟨m, hm, rfl⟩ := mem_of_member? (member?_eq_some_iff.mpr hw)
    exact .member hm ih
  | item _ hw _ ih => exact .item (List.mem_of_getElem? hw) ih

lemma resolve_eq_some_iff_leads : v.resolve xs = some w ↔ Leads v xs w ∧ w ≠ .null := by
  rw [resolve_eq_some_iff, walk?_eq_some_iff, isNull_eq_false]

lemma resolve_null (xs : List String) : null.resolve xs = none := by
  cases xs <;> rfl

lemma resolve_append_eq (v : Value) (xs ys : List String) :
    v.resolve (xs ++ ys) = (v.resolve xs).bind fun w => w.resolve ys := by
  rw [resolve, walk?_append, resolve.eq_def xs]
  cases walk? xs v with
  | none => rfl
  | some w =>
    cases w with
    | null => exact resolve_null ys
    | _ => rfl

lemma resolve_cons_object (key : String) (members : List (String × Value)) (ys : List String) :
    (object members).resolve (key :: ys) = (member? key members).bind fun w => w.resolve ys := by
  rw [resolve, walk?, child?]
  cases member? key members <;> rfl

/--
A path resolves in two parts as it does in one. It resolves to what it leads to unless that is null,
so never to null, and always to something inside the value. From an object the next name leads to
the member that is spelled so, if there is one, and else to the first one that is spelled so up to
case.
-/
theorem resolve_append (v : Value) (xs ys : List String) :
    v.resolve (xs ++ ys) = (v.resolve xs).bind (fun w => w.resolve ys) ∧
    (∀ w, v.resolve xs = some w ↔ Leads v xs w ∧ w ≠ .null) ∧
    (∀ w, v.resolve xs = some w → w ≠ .null ∧ Subvalue w v) ∧
    ∀ members, v.resolve xs = some (.object members) → ∀ key,
      (∀ w, IsMemberFor key members w → v.resolve (xs ++ key :: ys) = w.resolve ys) ∧
      ((∀ m ∈ members, Text.eqIgnoreAsciiCase m.1 key = false) →
        v.resolve (xs ++ key :: ys) = none) := by
  refine ⟨resolve_append_eq v xs ys, fun w => resolve_eq_some_iff_leads, fun w hw => ?_,
    fun members hm key => ?_⟩
  · obtain ⟨hleads, hnull⟩ := resolve_eq_some_iff_leads.mp hw
    exact ⟨hnull, hleads.subvalue⟩
  · have hstep : v.resolve (xs ++ key :: ys) =
        (member? key members).bind fun w => w.resolve ys := by
      rw [resolve_append_eq, hm, Option.bind_some, resolve_cons_object]
    refine ⟨fun w hw => ?_, fun hnone => ?_⟩
    · rw [hstep, member?_eq_some_iff.mpr hw, Option.bind_some]
    · rw [hstep, member?_eq_none hnone, Option.bind_none]

def weights : List (String × Value) := [("KG", .number (.integer 1)), ("kg", .string "2")]

def crate : Value :=
  .object [("PARTS", .null), ("Parts", .array [.null, .object weights])]

theorem resolve_append_crate :
    crate.resolve ["Parts", "1"] = some (.object weights) ∧
    Leads crate ["Parts", "1"] (.object weights) ∧ Subvalue (.object weights) crate ∧
    crate.resolve ["Parts", "1", "kg"] = some (.string "2") ∧
    crate.resolve ["Parts", "1", "Kg"] = some (.number (.integer 1)) ∧
    crate.resolve ["Parts", "1", "g"] = none ∧
    crate.resolve (["parts"] ++ ["1", "kg"]) =
      (crate.resolve ["parts"]).bind (fun w => w.resolve ["1", "kg"]) ∧
    crate.resolve ["parts"] = none := by
  have hweights : crate.resolve ["Parts", "1"] = some (.object weights) := rfl
  obtain ⟨-, hleads, hinside, hmember⟩ := resolve_append crate ["Parts", "1"] []
  have hsecond : weights = [("KG", .number (.integer 1))] ++ [("kg", .string "2")] := rfl
  have hfirst : weights = [] ++ ("KG", .number (.integer 1)) :: [("kg", .string "2")] := rfl
  have hkg : IsMemberFor "kg" weights (.string "2") := .exact hsecond (by decide)
  have hKg : IsMemberFor "Kg" weights (.number (.integer 1)) :=
    .anyCase hfirst (by simp [weights]) (by decide) nofun
  exact ⟨hweights, ((hleads _).mp hweights).1, (hinside _ hweights).2,
    (hmember _ hweights "kg").1 _ hkg, (hmember _ hweights "Kg").1 _ hKg,
    (hmember _ hweights "g").2 (by simp [weights]; decide),
    (resolve_append crate ["parts"] ["1", "kg"]).1, rfl⟩

end BracketQuery.Json.Value
