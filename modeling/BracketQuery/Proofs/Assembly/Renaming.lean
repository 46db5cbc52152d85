import BracketQuery.Proofs.Assembly.Conflict
import BracketQuery.Proofs.Condition.Meaning
import BracketQuery.Proofs.Filter.Concatenation

/-! Group names are labels. Pairs with other names for their groups make the same tree under these
names, and the same expression. -/

namespace BracketQuery

section

variable {κ μ α β : Type} [DecidableEq κ] [DecidableEq μ] {f : κ → μ}

lemma lookup_map {l : List (κ × α)} {k : κ} (g : α → β) (h : ∀ p ∈ l, f p.1 = f k → p.1 = k) :
    (l.map (Prod.map f g)).lookup (f k) = (l.lookup k).map g := by
  induction l with
  | nil => rfl
  | cons p l ih =>
    obtain ⟨m, v⟩ := p
    obtain ⟨hm, hl⟩ := List.forall_mem_cons.mp h
    rw [List.map_cons, Prod.map_apply]
    by_cases hk : k = m
    · rw [hk, List.lookup_cons_self, List.lookup_cons_self, Option.map_some]
    · have hne : f k ≠ f m := fun he => hk (hm he.symm).symm
      rw [lookup_cons_of_ne _ hne, lookup_cons_of_ne _ hk, ih hl]

lemma distinctItems_map {xs : List κ} (h : ∀ x ∈ xs, ∀ y ∈ xs, f x = f y → x = y) :
    distinctItems (xs.map f) = (distinctItems xs).map f := by
  induction xs with
  | nil => rfl
  | cons x xs ih =>
    have hxs := ih fun y hy z hz => h y (List.mem_cons_of_mem x hy) z (List.mem_cons_of_mem x hz)
    unfold distinctItems at hxs ⊢
    rw [List.map_cons, firsts, firsts, hxs, List.filter_map, List.map_cons]
    refine congrArg (fun ys => f x :: List.map f ys) (List.filter_congr fun y hy => ?_)
    have hy' : y ∈ x :: xs := List.mem_cons_of_mem x (mem_firsts.mp hy)
    have hiff : f x = f y ↔ x = y := ⟨h x List.mem_cons_self y hy', congrArg f⟩
    simp only [Function.comp_apply, hiff]

end

def Declaration.rename (f : String → String) (d : Declaration) : Declaration :=
  ⟨f d.name, d.parent.map f, d.conjunction⟩

def Clause.rename (f : String → String) (c : Clause) : Clause :=
  { c with parent := c.parent.map f }

def Capture.rename (f : String → String) : Capture → Capture
  | declaration d => declaration (d.rename f)
  | clause c => clause (c.rename f)

def LeafKey.rename (f : String → String) (k : LeafKey) : LeafKey := { k with group := f k.group }

def Leaf.rename (f : String → String) (l : Leaf) : Leaf :=
  { l with groupName := l.groupName.map f }

def Heading.rename (f : String → String) (h : Heading) : Heading :=
  ⟨f h.name, h.groupName.map f, h.conjunction⟩

mutual

/-- The tree with other names for its groups; leaves are named by their paths and keep their names. -/
def Node.rename (f : String → String) : Node → Node
  | .leaf l => .leaf (l.rename f)
  | .group h cs => .group (h.rename f) (Node.renameAll f cs)

def Node.renameAll (f : String → String) : List Node → List Node
  | [] => []
  | c :: cs => Node.rename f c :: Node.renameAll f cs

end

def Group.rename (f : String → String) (g : Group) : Group :=
  ⟨g.toHeading.rename f, Node.renameAll f g.children⟩

def QueryError.rename (f : String → String) : QueryError → QueryError
  | conjunctionConflict g existing requested => conjunctionConflict (f g) existing requested
  | e => e

lemma Node.renameAll_eq_map (f : String → String) (cs : List Node) :
    renameAll f cs = cs.map (rename f) := by
  induction cs with
  | nil => rfl
  | cons c cs ih => rw [renameAll, ih, List.map_cons]

namespace Capture

def names (cs : List Capture) : List String := rootName :: cs.flatMap groupNames

/-- Other names for the groups of some pairs. They are not blank, no two groups get the same one, and
the root keeps its own. -/
structure IsRenaming (f : String → String) (cs : List Capture) : Prop where
  root : f rootName = rootName
  injective : ∀ g ∈ names cs, ∀ h ∈ names cs, f g = f h → g = h
  named : ∀ g ∈ names cs, Text.isBlankString (f g) = false

variable {f : String → String} {cs : List Capture} {g h : String}

lemma mem_names (hg : g ≠ rootName → Mention cs g) : g ∈ names cs := by
  by_cases hr : g = rootName
  · rw [hr]
    exact List.mem_cons_self
  · exact List.mem_cons_of_mem _ (hg hr).1

lemma declared_mem_names {d : Declaration} (hd : d ∈ cs.filterMap declaration?) :
    d.name ∈ names cs ∧ d.parentName ∈ names cs :=
  ⟨mem_names (mention_name hd), mem_names (mention_parentName hd)⟩

lemma group_mem_names {k : LeafKey} (hk : k ∈ leafKeys cs) : k.group ∈ names cs :=
  mem_names (mention_leafKey hk)

lemma fst_mem_names {p : String × Conjunction} (hp : p ∈ cs.filterMap conjunction?) :
    p.1 ∈ names cs :=
  mem_names (mention_conjunction? hp)

namespace IsRenaming

variable (hf : IsRenaming f cs)

include hf

lemma eq_iff (hg : g ∈ names cs) (hh : h ∈ names cs) : f g = f h ↔ g = h :=
  ⟨hf.injective g hg h hh, congrArg f⟩

lemma eq_root_iff (hg : g ∈ names cs) : f g = rootName ↔ g = rootName := by
  have h := hf.eq_iff hg (List.mem_cons_self : rootName ∈ names cs)
  rwa [hf.root] at h

lemma getD_map (p : Option String) : (p.map f).getD rootName = f (p.getD rootName) := by
  cases p with
  | none => exact hf.root.symm
  | some g => rfl

lemma parentName_rename (d : Declaration) : (d.rename f).parentName = f d.parentName :=
  hf.getD_map d.parent

lemma key_rename (c : Clause) : (c.rename f).key = c.key.rename f := by
  rw [Clause.key, Clause.rename, hf.getD_map]
  rfl

lemma filterMap_conjunction? :
    (cs.map (rename f)).filterMap conjunction? =
      (cs.filterMap conjunction?).map (Prod.map f id) := by
  rw [List.filterMap_map, List.map_filterMap]
  refine List.filterMap_congr fun c _ => ?_
  cases c with
  | declaration d =>
    rw [Function.comp_apply, rename, conjunction?, conjunction?, Option.map_map]
    rfl
  | clause c =>
    rw [Function.comp_apply, rename, conjunction?, conjunction?, Option.map_map, Clause.rename,
      hf.getD_map]
    rfl

lemma isNamed (hn : ∀ c ∈ cs, c.IsNamed) : ∀ c ∈ cs.map (rename f), c.IsNamed := by
  have hnamed {c : Capture} (hc : c ∈ cs) {g : String} (hg : g ∈ c.groupNames) :
      Text.isBlankString (f g) = false :=
    hf.named g (List.mem_cons_of_mem _ (List.mem_flatMap.mpr ⟨c, hc, hg⟩))
  rw [List.forall_mem_map]
  intro c hc
  cases c with
  | declaration d =>
    refine ⟨hnamed hc List.mem_cons_self, fun p hp => ?_⟩
    obtain ⟨g, hg, rfl⟩ := Option.map_eq_some_iff.mp hp
    exact hnamed hc (List.mem_cons_of_mem _ (Option.mem_toList.mpr hg))
  | clause c =>
    refine ⟨(hn _ hc).1, fun p hp => ?_⟩
    obtain ⟨g, hg, rfl⟩ := Option.map_eq_some_iff.mp hp
    exact hnamed hc (Option.mem_toList.mpr hg)

end IsRenaming

lemma filterMap_declaration?_rename (f : String → String) (cs : List Capture) :
    (cs.map (rename f)).filterMap declaration? =
      (cs.filterMap declaration?).map (Declaration.rename f) := by
  rw [List.filterMap_map, List.map_filterMap]
  refine List.filterMap_congr fun c _ => ?_
  cases c <;> rfl

lemma filterMap_clause?_rename (f : String → String) (cs : List Capture) :
    (cs.map (rename f)).filterMap clause? = (cs.filterMap clause?).map (Clause.rename f) := by
  rw [List.filterMap_map, List.map_filterMap]
  refine List.filterMap_congr fun c _ => ?_
  cases c <;> rfl

end Capture

open Capture

variable {f : String → String} {cs : List Capture} {a b : Assembly}

namespace Assembly

section

variable (hf : IsRenaming f cs)

include hf

lemma collectConjunctions_rename {known ps : List (String × Conjunction)}
    (hp : ∀ p ∈ known ++ ps, p.1 ∈ names cs) :
    collectConjunctions (known.map (Prod.map f id)) (ps.map (Prod.map f id)) =
      ((collectConjunctions known ps).map (List.map (Prod.map f id))).mapError
        (QueryError.rename f) := by
  induction ps generalizing known with
  | nil => rfl
  | cons p ps ih =>
    obtain ⟨g, c⟩ := p
    have hg : g ∈ names cs := hp (g, c) (by simp)
    have hlookup : (known.map (Prod.map f id)).lookup (f g) = known.lookup g := by
      have h := lookup_map (f := f) (l := known) (k := g) (id : Conjunction → Conjunction)
        fun p hk => (hf.eq_iff (hp p (List.mem_append_left _ hk)) hg).mp
      rwa [Option.map_id, id] at h
    rw [List.map_cons, Prod.map_apply, collectConjunctions, collectConjunctions, hlookup]
    cases hd : known.lookup g with
    | none =>
      have hmore : ∀ p ∈ known ++ [(g, c)] ++ ps, p.1 ∈ names cs := by simpa using hp
      have hrest := ih hmore
      rwa [List.map_append] at hrest
    | some d =>
      by_cases hdc : d = c
      · have hfewer : ∀ p ∈ known ++ ps, p.1 ∈ names cs := by
          intro p hm
          exact hp p (by rcases List.mem_append.mp hm with hm | hm <;> simp [hm])
        simpa [hdc] using ih hfewer
      · simp [hdc, QueryError.rename, Except.map, Except.mapError]

lemma isIgnored_rename {known : List (String × String)} {d : Declaration}
    (hk : ∀ p ∈ known, p.1 ∈ names cs) (hn : d.name ∈ names cs) (hp : d.parentName ∈ names cs) :
    IsIgnored (known.map (Prod.map f f)) (d.rename f) ↔ IsIgnored known d := by
  have hlookup : (known.map (Prod.map f f)).lookup (f d.name) = (known.lookup d.name).map f :=
    lookup_map f fun p hm => (hf.eq_iff (hk p hm) hn).mp
  rw [IsIgnored, IsIgnored, hf.parentName_rename, Declaration.rename, hf.eq_root_iff hn,
    hf.eq_iff hn hp, hlookup, Option.isSome_map]

lemma collectParents_rename {known : List (String × String)} {ds : List Declaration}
    (hk : ∀ p ∈ known, p.1 ∈ names cs)
    (hd : ∀ d ∈ ds, d.name ∈ names cs ∧ d.parentName ∈ names cs) :
    collectParents (known.map (Prod.map f f)) (ds.map (Declaration.rename f)) =
      (collectParents known ds).map (Prod.map f f) := by
  induction ds generalizing known with
  | nil => rfl
  | cons d ds ih =>
    obtain ⟨⟨hn, hp⟩, hds⟩ := List.forall_mem_cons.mp hd
    rw [List.map_cons, collectParents_cons, collectParents_cons]
    by_cases hi : IsIgnored known d
    · rw [if_pos ((isIgnored_rename hf hk hn hp).mpr hi), if_pos hi, ih hk hds]
    · have hmore : ∀ p ∈ known ++ [(d.name, d.parentName)], p.1 ∈ names cs := by
        intro p hm
        rcases List.mem_append.mp hm with hm | hm
        · exact hk p hm
        · rw [List.mem_singleton.mp hm]
          exact hn
      rw [if_neg (mt (isIgnored_rename hf hk hn hp).mp hi), if_neg hi, ← ih hmore hds,
        List.map_append, hf.parentName_rename]
      rfl

lemma leafKeys_rename : leafKeys (cs.map (Capture.rename f)) =
    (leafKeys cs).map (LeafKey.rename f) := by
  rw [leafKeys, leafKeys, filterMap_clause?_rename, List.map_map, List.map_map]
  exact List.map_congr_left fun c _ => hf.key_rename c

lemma rename_eq_iff {k l : LeafKey} (hk : k ∈ leafKeys cs) (hl : l ∈ leafKeys cs) :
    k.rename f = l.rename f ↔ k = l := by
  have h := hf.eq_iff (group_mem_names hk) (group_mem_names hl)
  obtain ⟨g, path, o⟩ := k
  obtain ⟨g', path', o'⟩ := l
  simp only [LeafKey.rename, LeafKey.mk.injEq]
  rw [h]

lemma valuesOf_rename {k : LeafKey} (hk : k ∈ leafKeys cs) :
    valuesOf (cs.map (Capture.rename f)) (k.rename f) = valuesOf cs k := by
  have hfilter : ((cs.filterMap clause?).map (Clause.rename f)).filter
      (fun c => c.key = k.rename f) =
        ((cs.filterMap clause?).filter fun c => c.key = k).map (Clause.rename f) := by
    rw [List.filter_map]
    refine congrArg _ (List.filter_congr fun c hc => ?_)
    have hkey : c.key ∈ leafKeys cs := List.mem_map_of_mem hc
    simp only [Function.comp_apply, hf.key_rename, rename_eq_iff hf hkey hk]
  rw [valuesOf, valuesOf, filterMap_clause?_rename, hfilter, List.flatMap_map]
  rfl

lemma conjunctionOf_rename {g : String} (hg : g ∈ names cs) :
    conjunctionOf (cs.map (Capture.rename f)) (f g) = conjunctionOf cs g := by
  have hnames : ∀ p ∈ cs.filterMap conjunction?, f p.1 = f g → p.1 = g :=
    fun p hp => (hf.eq_iff (fst_mem_names hp) hg).mp
  have hlookup := lookup_map (id : Conjunction → Conjunction) hnames
  rw [conjunctionOf, conjunctionOf, hf.filterMap_conjunction?, hlookup, Option.map_id, id]

lemma agree_rename (ha : Agree cs) : Agree (cs.map (Capture.rename f)) := by
  rw [Agree, hf.filterMap_conjunction?, List.forall_mem_map]
  intro p hp
  rw [List.forall_mem_map]
  intro q hq he
  exact ha p hp q hq (hf.injective _ (fst_mem_names hp) _ (fst_mem_names hq) he)

end

/-- On some groups, with the groups in them, the second assembly has the tables of the first one
under other names. -/
structure Renamed (f : String → String) (a b : Assembly) (gs : String → Prop) : Prop where
  leafNodes : ∀ g, gs g → b.leafNodes (f g) = (a.leafNodes g).map (Node.rename f)
  childrenOf : ∀ g, gs g → b.childrenOf (f g) = (a.childrenOf g).map f
  heading : ∀ g parent, gs g → b.heading (f g) (parent.map f) = (a.heading g parent).rename f
  inner : ∀ g child, child ∈ a.childrenOf g → gs child

lemma Renamed.content_eq {gs : String → Prop} (h : Renamed f a b gs) (levels : Nat) {g : String}
    (hg : gs g) : b.content levels (f g) = (a.content levels g).map (Node.rename f) := by
  induction levels generalizing g with
  | zero => exact h.leafNodes g hg
  | succ levels ih =>
    rw [content, content, h.leafNodes g hg, h.childrenOf g hg, List.map_append, List.filter_map,
      List.map_map, List.map_map]
    have hfilter : (a.childrenOf g).filter
        ((fun child => !(b.content levels child).isEmpty) ∘ f) =
          (a.childrenOf g).filter fun child => !(a.content levels child).isEmpty :=
      List.filter_congr fun child hm => by
        rw [Function.comp_apply, ih (h.inner g child hm), List.isEmpty_map]
    rw [hfilter]
    congr 1
    apply List.map_congr_left
    intro child hm
    have hchild := h.inner g child (List.mem_filter.mp hm).1
    rw [Function.comp_apply, Function.comp_apply, ih hchild, Node.rename, Node.renameAll_eq_map,
      ← h.heading child (some g) hchild]
    rfl

section

variable (ha : a.Holds cs) (hb : b.Holds (cs.map (Capture.rename f))) (hf : IsRenaming f cs)

include ha hb hf

lemma Holds.leaves_rename : b.leaves = a.leaves.map (Prod.map (LeafKey.rename f) id) := by
  have hkeys : ∀ k ∈ leafKeys cs, ∀ l ∈ leafKeys cs, k.rename f = l.rename f → k = l :=
    fun k hk l hl => (rename_eq_iff hf hk hl).mp
  rw [hb.leaves, ha.leaves, leafKeys_rename hf, distinctItems_map hkeys, List.map_map, List.map_map]
  apply List.map_congr_left
  intro k hk
  rw [Function.comp_apply, valuesOf_rename hf (mem_distinctItems.mp hk)]
  rfl

lemma Holds.parents_rename : b.parents = a.parents.map (Prod.map f f) := by
  have hdeclared : ∀ d ∈ cs.filterMap declaration?, d.name ∈ names cs ∧ d.parentName ∈ names cs :=
    fun d hd => declared_mem_names hd
  have h := collectParents_rename hf (List.forall_mem_nil _) hdeclared
  rw [hb.parents, ha.parents, filterMap_declaration?_rename, ← h]
  rfl

lemma Holds.renamed : Renamed f a b (· ∈ names cs) where
  leafNodes g hg := by
    rw [leafNodes, leafNodes, ha.leaves_rename hb hf, List.filter_map, List.map_map, List.map_map]
    have hfilter : a.leaves.filter
        ((fun l => l.1.group == f g) ∘ Prod.map (LeafKey.rename f) id) =
          a.leaves.filter fun l => l.1.group == g := by
      refine List.filter_congr fun l hl => ?_
      obtain ⟨k, hk, rfl⟩ := ha.mem_leaves.mp hl
      have hiff := hf.eq_iff (group_mem_names hk) hg
      simp only [Function.comp_apply, Prod.map_fst, LeafKey.rename, Bool.beq_eq_decide_eq, hiff]
    rw [hfilter]
    rfl
  childrenOf g hg := by
    rw [childrenOf_eq, childrenOf_eq, ha.parents_rename hb hf, List.filter_map, List.map_map,
      List.map_map]
    have hfilter : a.parents.filter ((fun p => p.2 = f g) ∘ Prod.map f f) =
        a.parents.filter fun p => p.2 = g := by
      refine List.filter_congr fun p hp => ?_
      obtain ⟨d, hd, -, -, he⟩ := ha.exists_declaration (mem_childrenOf.mpr hp)
      have hparent : p.2 ∈ names cs := he ▸ (declared_mem_names hd).2
      simp only [Function.comp_apply, Prod.map_snd, hf.eq_iff hparent hg]
    rw [hfilter]
    rfl
  heading g parent hg := by
    rw [hb.heading_eq, ha.heading_eq, conjunctionOf_rename hf hg]
    rfl
  inner g child hm := mem_names fun _ => ha.mention_child hm

lemma Holds.group?_rename (levels : Nat) :
    b.group? rootName none (b.content levels rootName) =
      (a.group? rootName none (a.content levels rootName)).map (Group.rename f) := by
  have hr := ha.renamed hb hf
  have hroot : rootName ∈ names cs := List.mem_cons_self
  have hcontent := hr.content_eq levels hroot
  have hheading := hr.heading rootName none hroot
  rw [hf.root] at hcontent hheading
  rw [group?, group?, hcontent, List.isEmpty_map]
  cases (a.content levels rootName).isEmpty with
  | true => rfl
  | false =>
    simp only [Bool.false_eq_true, if_false, Option.map_some, Group.rename, Node.renameAll_eq_map]
    rw [← hheading]
    rfl

end

end Assembly

lemma Registry.build_rename (f : String → String) (l : Leaf) :
    Registry.standard.build (l.rename f) = Registry.standard.build l := by
  by_cases ho : l.operator = .none
  · obtain ⟨name, groupName, path, operator, values⟩ := l
    obtain rfl : operator = .none := ho
    rfl
  · have ho' : (l.rename f).operator ≠ .none := ho
    rw [build_standard ho, build_standard ho']
    rfl

mutual

lemma Node.compile_rename (f : String → String) : ∀ n : Node,
    (n.rename f).compile .standard = n.compile .standard
  | .leaf l => by rw [rename, compile, compile, Registry.build_rename]
  | .group h cs => by
    rw [rename, compile, compile, compileAll_rename f cs]
    rfl

lemma Node.compileAll_rename (f : String → String) : ∀ cs : List Node,
    compileAll .standard (renameAll f cs) = compileAll .standard cs
  | [] => rfl
  | c :: cs => by rw [renameAll, compileAll, compileAll, compile_rename f c, compileAll_rename f cs]

end

lemma compileFilter_rename (f : String → String) (t : Option Group) :
    compileFilter .standard (t.map (Group.rename f)) = compileFilter .standard t := by
  cases t with
  | none => rfl
  | some g => exact Node.compile_rename f g.toNode

/--
Pairs with other names for their groups make the tree of the pairs as they were, under the other
names, or the same conflict for the group of another name. The tree is compiled to the very same
expression.
-/
theorem assemble_rename (hn : ∀ c ∈ cs, c.IsNamed)
    (ho : ∀ c ∈ cs.filterMap Capture.clause?, c.operator ≠ .none) (hf : IsRenaming f cs) :
    assemble (cs.map (Capture.rename f)) =
      ((assemble cs).map (Option.map (Group.rename f))).mapError (QueryError.rename f) ∧
    ∀ t, assemble cs = .ok t → ∃ e, compileFilter .standard t = .ok e ∧
      compileFilter .standard (t.map (Group.rename f)) = .ok e := by
  have hn' := hf.isNamed hn
  constructor
  · cases h : assemble cs with
    | error e =>
      have hnames : ∀ p ∈ [] ++ cs.filterMap conjunction?, p.1 ∈ names cs :=
        fun p hp => fst_mem_names hp
      have hcollect := Assembly.collectConjunctions_rename hf hnames
      rw [(assemble_eq_error_iff_collect hn).mp h, ← hf.filterMap_conjunction?] at hcollect
      exact (assemble_eq_error_iff_collect hn').mpr hcollect
    | ok t =>
      have hagree := agree_of_assemble h
      obtain ⟨a, ha, -, ht⟩ := assemble_eq hn hagree
      obtain ⟨b, hb, -, ht'⟩ := assemble_eq hn' (Assembly.agree_rename hf hagree)
      rw [h] at ht
      obtain rfl := Except.ok.inj ht
      rw [ht', ha.group?_rename hb hf]
      rfl
  · intro t h
    obtain ⟨a, ha, -, ht⟩ := assemble_eq hn (agree_of_assemble h)
    rw [h] at ht
    obtain rfl := Except.ok.inj ht
    obtain ⟨e, he, -⟩ := ha.compile_root ho
    exact ⟨e, he, (compileFilter_rename f _).trans he⟩

def turned : String → String
  | "inner" => "outer"
  | "outer" => "ghost"
  | "ghost" => "inner"
  | "lost" => "barn"
  | "barn" => "lost"
  | g => g

theorem assemble_turned :
    (∀ c ∈ tangledPairs, c.IsNamed) ∧
    (∀ c ∈ tangledPairs.filterMap Capture.clause?, c.operator ≠ .none) ∧
    IsRenaming turned tangledPairs ∧
    (∃ t e, assemble tangledPairs = .ok (some t) ∧
      t.toNode.groups.map (fun g => g.name) = ["root", "outer", "inner"] ∧
      assemble (tangledPairs.map (Capture.rename turned)) = .ok (some (t.rename turned)) ∧
      (t.rename turned).toNode.groups.map (fun g => g.name) = ["root", "ghost", "outer"] ∧
      compileFilter .standard (some t) = .ok e ∧
      compileFilter .standard (some (t.rename turned)) = .ok e) ∧
    IsRenaming turned feudingPairs ∧
    assemble (feudingPairs.map (Capture.rename turned)) =
      .error (.conjunctionConflict "barn" .or .and) := by
  have hn : ∀ c ∈ tangledPairs, c.IsNamed := by decide
  have ho : ∀ c ∈ tangledPairs.filterMap Capture.clause?, c.operator ≠ .none := by decide
  have hf : IsRenaming turned tangledPairs := ⟨by decide, by decide, by decide⟩
  have hn' : ∀ c ∈ feudingPairs, c.IsNamed := by decide
  have ho' : ∀ c ∈ feudingPairs.filterMap Capture.clause?, c.operator ≠ .none := by decide
  have hf' : IsRenaming turned feudingPairs := ⟨by decide, by decide, by decide⟩
  obtain ⟨htree, hcompile⟩ := assemble_rename hn ho hf
  obtain ⟨e, he, he'⟩ := hcompile _ rfl
  exact ⟨hn, ho, hf, ⟨_, e, rfl, rfl, htree, rfl, he, he'⟩, hf', (assemble_rename hn' ho' hf').1⟩

end BracketQuery
