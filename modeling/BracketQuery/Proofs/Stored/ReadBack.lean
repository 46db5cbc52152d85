import BracketQuery.Proofs.Assembly.Tables
import BracketQuery.Stored.Reader

/-! What is stored is read back as it was, also where records are written as arrays. -/

namespace BracketQuery

open Json

/-- The forms of a record: the object of its members in any order, or the array of what they hold. -/
inductive Stored.IsRecord (members : List (String × Value)) : Value → Prop
  | object {ms : List (String × Value)} (h : ms.Perm members) : IsRecord members (.object ms)
  | array : IsRecord members (.array (members.map Prod.snd))

def Leaf.members (l : Leaf) : List (String × Value) :=
  [ ("name", .string l.name), ("group_name", .ofOption l.groupName), ("path", .string l.path),
    ("operator", .string l.operator.name), ("values", .ofStrings l.values.toList) ]

def Heading.members (h : Heading) (children : List Value) : List (String × Value) :=
  [ ("name", .string h.name), ("group_name", .ofOption h.groupName),
    ("conjunction", .string h.conjunction.name), ("children", .array children) ]

def SortKey.members (k : SortKey) : List (String × Value) :=
  [ ("field", .string k.field), ("original_token", .string k.token),
    ("direction", .string k.direction.name) ]

def Page.members (p : Page) : List (String × Value) :=
  [ ("after", .ofOption p.after), ("before", .ofOption p.before), ("offset", .ofNat p.offset.toNat),
    ("limit", .ofNat p.limit.toNat) ]

namespace Node

mutual

inductive IsForm : Node → Value → Prop
  | leaf {l : Leaf} {v : Value} (h : Stored.IsRecord l.members v) :
      IsForm (leaf l) (.object [("Leaf", v)])
  | group {h : Heading} {cs : List Node} {vs : List Value} {v : Value} (hcs : AreForms cs vs)
      (hv : Stored.IsRecord (h.members vs) v) : IsForm (group h cs) (.object [("Group", v)])

inductive AreForms : List Node → List Value → Prop
  | nil : AreForms [] []
  | cons {c : Node} {cs : List Node} {v : Value} {vs : List Value} (hc : IsForm c v)
      (hcs : AreForms cs vs) : AreForms (c :: cs) (v :: vs)

end

mutual

lemma isForm_toValue : ∀ n : Node, n.IsForm n.toValue
  | leaf _ => .leaf (.object (.refl _))
  | group _ cs => .group (areForms_toValues cs) (.object (.refl _))

lemma areForms_toValues : ∀ cs : List Node, AreForms cs (toValues cs)
  | [] => .nil
  | c :: cs => .cons (isForm_toValue c) (areForms_toValues cs)

end

end Node

def Group.IsForm (g : Group) (v : Value) : Prop :=
  ∃ vs, Node.AreForms g.children vs ∧ Stored.IsRecord (g.toHeading.members vs) v

namespace Stored

lemma fields?_of_isRecord {members : List (String × Value)} {v : Value}
    (hn : (members.map Prod.fst).Nodup) (h : IsRecord members v) :
    fields? (members.map Prod.fst) v = some (members.map fun m => some m.2) := by
  cases h with
  | object hp =>
    have hlookup (m : String × Value) (hm : m ∈ members) : List.lookup m.1 _ = some m.2 :=
      (lookup_eq_some_iff_mem ((hp.map Prod.fst).nodup_iff.mpr hn)).mpr (hp.mem_iff.mpr hm)
    rw [fields?, List.map_map]
    exact congrArg some (List.map_congr_left hlookup)
  | array => simp [fields?]

@[simp] lemma text?_string (s : String) : text? (some (.string s)) = some s := rfl

@[simp] lemma optionalText?_ofOption (s : Option String) :
    optionalText? (some (.ofOption s)) = some s := by
  cases s <;> rfl

@[simp] lemma texts?_ofStrings (ss : List String) : texts? (some (.ofStrings ss)) = some ss := by
  change (ss.map Value.string).mapM (fun v => text? (some v)) = some ss
  induction ss with
  | nil => rfl
  | cons s ss ih => simp [ih]

@[simp] lemma word32?_ofNat (n : UInt32) : word32? (some (.ofNat n.toNat)) = some n := by
  have hle : n.toNat ≤ Text.word32Top := Nat.le_of_lt_succ n.toNat_lt
  simp [word32?, Value.ofNat, hle]

@[simp] lemma operator?_name (o : Operator) : operator? (some (.string o.name)) = some o :=
  Operator.ofName?_name o

@[simp] lemma conjunction?_name (c : Conjunction) :
    conjunction? (some (.string c.name)) = some c :=
  Conjunction.ofName?_name c

@[simp] lemma direction?_name (d : SortDirection) : direction? (some (.string d.name)) = some d := by
  cases d <;> decide

lemma leaf?_of_isRecord {l : Leaf} {v : Value} (h : IsRecord l.members v) : leaf? v = some l := by
  have hf : fields? leafFields v = _ := fields?_of_isRecord (by simp [Leaf.members]) h
  simp [leaf?, hf, Leaf.members, ValueSet.ofList_toList]

lemma sortKey?_of_isRecord {k : SortKey} {v : Value} (h : IsRecord k.members v) :
    sortKey? v = some k := by
  have hf : fields? ["field", "original_token", "direction"] v = _ :=
    fields?_of_isRecord (by simp [SortKey.members]) h
  simp [sortKey?, hf, SortKey.members]

lemma page?_of_isRecord {p : Page} {v : Value} (h : IsRecord p.members v) : page? v = some p := by
  have hf : fields? ["after", "before", "offset", "limit"] v = _ :=
    fields?_of_isRecord (by simp [Page.members]) h
  simp [page?, hf, Page.members]

lemma children?_eq (ms : List (String × Value)) :
    children? ms = (ms.lookup "children").bind nodes? := by
  induction ms with
  | nil => simp [children?]
  | cons m ms ih =>
    obtain ⟨k, v⟩ := m
    by_cases h : k = "children"
    · simp [children?, h]
    · rw [children?, if_neg h, ih, lookup_cons_of_ne v (Ne.symm h)]

lemma heading?_name (h : Heading) : heading? (some (.string h.name)) (some (.ofOption h.groupName))
    (some (.string h.conjunction.name)) = some h := by
  simp [heading?]

lemma group?_of_isRecord {h : Heading} {vs : List Value} {v : Value}
    (hv : IsRecord (h.members vs) v) : group? v = (nodeList? vs).map (Group.mk h) := by
  have hf := fields?_of_isRecord (by simp [Heading.members]) hv
  cases hv with
  | object hp =>
    simp only [Heading.members, fields?, List.map_cons, List.map_nil, Option.some.injEq,
      List.cons.injEq] at hf
    obtain ⟨hname, hgroup, hconjunction, hchildren, -⟩ := hf
    simp only [group?, hname, hgroup, hconjunction, heading?_name, children?_eq, hchildren,
      Option.bind_some, nodes?]
    cases nodeList? vs <;> rfl
  | array =>
    simp only [Heading.members, List.map_cons, List.map_nil, group?, heading?_name, nodes?]
    cases nodeList? vs <;> rfl

mutual

lemma node?_of_isForm : ∀ {n : Node} {v : Value}, n.IsForm v → node? v = some n
  | .leaf l, _, .leaf h => by simp [node?, leaf?_of_isRecord h]
  | .group h cs, _, .group hcs hv => by
    simp [node?, group?_of_isRecord hv, nodeList?_of_areForms hcs, Group.toNode]

lemma nodeList?_of_areForms : ∀ {cs : List Node} {vs : List Value},
    Node.AreForms cs vs → nodeList? vs = some cs
  | [], _, .nil => rfl
  | c :: cs, _, .cons hc hcs => by
    simp [nodeList?, node?_of_isForm hc, nodeList?_of_areForms hcs]

end

lemma group?_of_isForm {g : Group} {v : Value} (h : g.IsForm v) : group? v = some g := by
  obtain ⟨vs, hvs, hv⟩ := h
  rw [group?_of_isRecord hv, nodeList?_of_areForms hvs, Option.map_some]

structure ReadsBack {α : Type} (write : α → Value) (form : α → Value → Prop)
    (read? : Value → Option α) : Prop where
  form_write (a : α) : form a (write a)
  read_form {a : α} {v : Value} (h : form a v) : read? v = some a

/-- Leaves, sort keys, windows and groups are read back from all their forms, with the values and the
children in their order. A group that is read back compiles as before, with any handlers. -/
theorem read_forms :
    ReadsBack Leaf.toValue (fun l => IsRecord l.members) leaf? ∧
    ReadsBack SortKey.toValue (fun k => IsRecord k.members) sortKey? ∧
    ReadsBack Page.toValue (fun p => IsRecord p.members) page? ∧
    ReadsBack Group.toValue Group.IsForm group? ∧
    ∀ (r : Registry) (g : Group) (v : Value), g.IsForm v →
      (group? v).map (Group.compile r) = some (g.compile r) := by
  refine ⟨⟨fun _ => .object (.refl _), leaf?_of_isRecord⟩,
    ⟨fun _ => .object (.refl _), sortKey?_of_isRecord⟩,
    ⟨fun _ => .object (.refl _), page?_of_isRecord⟩, ⟨fun g => ?_, group?_of_isForm⟩, ?_⟩
  · exact ⟨_, Node.areForms_toValues g.children, .object (.refl _)⟩
  · intro r g v h
    rw [group?_of_isForm h, Option.map_some]

def mixedLeaf : Leaf := ⟨"tag", some "root", "tag", .isIn, .ofList ["y", "x"]⟩

def mixedGroup : Group :=
  ⟨⟨"root", none, .or⟩, [.leaf mixedLeaf, .group ⟨"g", some "root", .and⟩ [.leaf mixedLeaf]]⟩

def mixedForm : Value :=
  let leafArray : Value := .array
    [.string "tag", .string "root", .string "tag", .string "In", .ofStrings ["y", "x"]]
  .object
    [ ("children", .array
        [ .object [("Leaf", leafArray)],
          .object [("Group", .array [.string "g", .string "root", .string "And",
            .array [.object [("Leaf", mixedLeaf.toValue)]]])] ]),
      ("conjunction", .string "Or"), ("group_name", .null), ("name", .string "root") ]

theorem read_forms_mixedGroup : mixedGroup.IsForm mixedForm ∧
    group? mixedForm = some mixedGroup ∧
    (group? mixedForm).map (Group.compile .standard) = some (mixedGroup.compile .standard) ∧
    leaf? (.array [.string "n", .null, .string "p", .string "Regex", .array []]) =
      some ⟨"n", none, "p", .regex, .ofList []⟩ ∧
    sortKey? (.array [.string "price", .string "-price", .string "Descending"]) =
      some ⟨"price", "-price", .descending⟩ ∧
    page? (.array [.null, .string "c", .ofNat 40, .ofNat 20]) = some ⟨none, some "c", 40, 20⟩ := by
  obtain ⟨hleaf, hkey, hpage, hgroup, hcompile⟩ := read_forms
  have hform : mixedGroup.IsForm mixedForm := by
    have hinner : Node.AreForms [.leaf mixedLeaf] [.object [("Leaf", mixedLeaf.toValue)]] :=
      .cons (.leaf (.object (.refl _))) .nil
    exact ⟨_, .cons (.leaf .array) (.cons (.group hinner .array) .nil),
      .object (List.reverse_perm (mixedGroup.members _))⟩
  exact ⟨hform, hgroup.read_form hform, hcompile _ _ _ hform, hleaf.read_form .array,
    hkey.read_form .array, hpage.read_form .array⟩

end Stored

end BracketQuery
