import BracketQuery.Proofs.Assembly.Build
import Mathlib.Data.List.Nodup
import Mathlib.Data.List.Perm.Subperm

/-! The build of a tree meets no cycle, goes into no group twice, and needs no limit to end. -/

namespace BracketQuery

namespace Assembly

variable {a : Assembly} {name : String} {parent : Option String} {ancestors : List String}

lemma length_collectParents_le (known : List (String × String)) (ds : List Declaration) :
    (collectParents known ds).length ≤ known.length + ds.length := by
  induction ds generalizing known with
  | nil => exact Nat.le_refl _
  | cons d ds ih =>
    rw [collectParents_cons, List.length_cons]
    split
    · have := ih known
      omega
    · have := ih (known ++ [(d.name, d.parentName)])
      rw [List.length_append, List.length_singleton] at this
      omega

lemma rooted_of_ofCaptures {cs : List Capture} (h : ofCaptures cs = .ok a) :
    a.Rooted ∧ a.parents.length ≤ (cs.filterMap Capture.declaration?).length := by
  rcases ofCaptures_cases cs with ⟨g, c, d, he⟩ | hagree
  · rw [h] at he
    cases he
  · obtain ⟨b, hb, hh⟩ := ofCaptures_holds hagree
    rw [h] at hb
    cases hb
    refine ⟨⟨hh.nodup, by rw [parentOf?, hh.parent, Capture.parentOf?_root]⟩, ?_⟩
    have hle := length_collectParents_le [] (cs.filterMap Capture.declaration?)
    rwa [← hh.parents, List.length_nil, Nat.zero_add] at hle

lemma Rooted.climb_le_length (hr : a.Rooted) {m : Nat} {g : String}
    (h : climb a.parentOf? m g = some rootName) : m ≤ a.parents.length := by
  let way := (List.range m).map fun i => climb a.parentOf? i g
  have hnodup : way.Nodup := by
    refine List.Nodup.map_on (fun i hi j hj hij => ?_) List.nodup_range
    exact climb_injective hr.root h (Nat.le_of_lt (List.mem_range.mp hi))
      (Nat.le_of_lt (List.mem_range.mp hj)) hij
  have hsub : way ⊆ a.parents.map fun p => some p.1 := by
    intro x hx
    obtain ⟨i, hi, rfl⟩ := List.mem_map.mp hx
    obtain ⟨c, p, hc, hp⟩ := exists_parent_of_lt h (List.mem_range.mp hi)
    exact List.mem_map.mpr ⟨(c, p), mem_of_lookup hp, hc.symm⟩
  simpa [way] using (hnodup.subperm hsub).length_le

lemma build_zero :
    a.build 0 ancestors name parent = a.assembleGroup (fun _ => .ok none) name parent := by
  have hnone : (a.childrenOf name).mapM
      (fun _ => (.ok none : Except QueryError (Option Group))) =
      .ok ((a.childrenOf name).map fun _ => none) := mapM_eq_ok fun _ _ => rfl
  have hempty : ((a.childrenOf name).map fun _ => (none : Option Group)).filterMap
      (fun g => g.map Group.toNode) = [] := by
    simp
  rw [assembleGroup, hnone, build]
  change (a.leavesOf name >>= fun leaves => a.close name parent leaves) =
    (a.leavesOf name >>= fun leaves => a.close name parent (leaves ++ _))
  simp only [hempty, List.append_nil]

inductive Event
  | entered (name : String)
  | cyclicReference (name : String)
deriving DecidableEq, Repr

/-- A computation that notes what it does, also where it fails. -/
abbrev Logged : Type → Type := ExceptT QueryError (StateM (List Event))

def note (e : Event) : Logged Unit := modify fun log => log ++ [e]

/-- The build with a note of each group that it goes into and of each cycle that it meets. -/
def buildLogged (a : Assembly) :
    Nat → List String → String → Option String → Logged (Option Group)
  | levels, ancestors, name, parent => do
    note (.entered name)
    a.assembleGroup (fun child =>
      if (name :: ancestors).contains child then do
        note (.cyclicReference child)
        return none
      else
        match levels with
        | 0 => return none
        | levels + 1 => buildLogged a levels (name :: ancestors) child (some name)) name parent

/-- Tables in which the root has a parent do have a cycle. -/
example : (buildLogged ⟨[], [("a", "root"), ("root", "a")], []⟩ 1 [] "root" none).run.run [] =
    (.ok none, [.entered "root", .entered "a", .cyclicReference "root"]) := rfl

def buildUnchecked (a : Assembly) :
    Nat → String → Option String → Except QueryError (Option Group)
  | levels, name, parent =>
    a.assembleGroup (fun child =>
      match levels with
      | 0 => return none
      | levels + 1 => buildUnchecked a levels child (some name)) name parent

/-- The build without a look at the ancestors and without a limit. It gives nothing if so many calls
inside one another are not enough. -/
def buildUnlimited (a : Assembly) :
    Nat → String → Option String → ExceptT QueryError Option (Option Group)
  | 0, _, _ => ExceptT.mk none
  | calls + 1, name, parent =>
    a.assembleGroup (fun child => buildUnlimited a calls child (some name)) name parent

/-- The computation has that result and notes some of these events, in their order. -/
def Logs {α : Type} (x : Logged α) (r : Except QueryError α) (es : List Event) : Prop :=
  ∃ ds : List Event, ds.Sublist es ∧ ∀ log, x.run.run log = (r, log ++ ds)

section

variable {α β : Type} {x : Logged α} {r : Except QueryError α} {f : α → Logged β}
  {g : α → Except QueryError β} {ds es : List Event}

lemma logs_note (e : Event) : Logs (note e) (.ok ()) [e] := ⟨[e], .refl _, fun _ => rfl⟩

lemma logs_lift (r : Except QueryError α) : Logs (liftM r) r [] := by
  refine ⟨[], .refl _, fun log => ?_⟩
  rw [List.append_nil]
  rfl

lemma logs_pure (v : α) : Logs (pure v) (pure v) [] := logs_lift (.ok v)

lemma Logs.bind (hx : Logs x r ds) (hf : ∀ v, Logs (f v) (g v) es) :
    Logs (x >>= f) (r >>= g) (ds ++ es) := by
  obtain ⟨ds', hds, hx⟩ := hx
  have hrun (log : List Event) : (x >>= f).run.run log =
      match x.run.run log with
      | (.ok v, log) => (f v).run.run log
      | (.error e, log) => (.error e, log) := by
    rw [ExceptT.run_bind, StateT.run_bind]
    rcases x.run.run log with ⟨_ | v, log⟩ <;> rfl
  cases r with
  | error e =>
    refine ⟨ds', hds.trans (List.sublist_append_left ds es), fun log => ?_⟩
    rw [hrun, hx]
    rfl
  | ok v =>
    obtain ⟨es', hes, hv⟩ := hf v
    refine ⟨ds' ++ es', hds.append hes, fun log => ?_⟩
    rw [hrun, hx, ← List.append_assoc]
    exact hv _

lemma Logs.mapM {f : α → Logged β} {g : α → Except QueryError β} {h : α → List Event} {xs : List α}
    (hf : ∀ x ∈ xs, Logs (f x) (g x) (h x)) : Logs (xs.mapM f) (xs.mapM g) (xs.flatMap h) := by
  induction xs with
  | nil => exact logs_pure []
  | cons x xs ih =>
    rw [List.mapM_cons, List.mapM_cons, List.flatMap_cons]
    refine (hf x List.mem_cons_self).bind fun y => ?_
    have hrest := (ih fun z hz => hf z (List.mem_cons_of_mem x hz)).bind fun ys =>
      logs_pure (y :: ys)
    rwa [List.append_nil] at hrest

lemma Logs.assembleGroup {inner : String → Logged (Option Group)}
    {inner' : String → Except QueryError (Option Group)} {h : String → List Event}
    (hi : ∀ child ∈ a.childrenOf name, Logs (inner child) (inner' child) (h child)) :
    Logs (a.assembleGroup inner name parent) (a.assembleGroup inner' name parent)
      ((a.childrenOf name).flatMap h) := by
  have hgroups (leaves : List Node) := (Logs.mapM hi).bind fun groups => logs_lift
    (a.close name parent (leaves ++ groups.filterMap fun g => g.map Group.toNode))
  have hall := (logs_lift (a.leavesOf name)).bind hgroups
  rwa [List.nil_append, List.append_nil] at hall

end

def namesWithin (a : Assembly) : Nat → String → List String
  | 0, name => [name]
  | levels + 1, name => name :: (a.childrenOf name).flatMap (namesWithin a levels)

lemma climb_of_mem_namesWithin (hr : a.Rooted) {levels : Nat} {g : String}
    (h : g ∈ a.namesWithin levels name) : ∃ m, climb a.parentOf? m g = some name := by
  induction levels generalizing name with
  | zero =>
    obtain rfl := List.mem_singleton.mp h
    exact ⟨0, rfl⟩
  | succ levels ih =>
    rcases List.mem_cons.mp h with rfl | h
    · exact ⟨0, rfl⟩
    · obtain ⟨child, hc, h⟩ := List.mem_flatMap.mp h
      obtain ⟨m, hm⟩ := ih h
      exact ⟨m + 1, (climb_succ_eq _ m g name).mpr ⟨child, hm, hr.parent_iff.mpr hc⟩⟩

lemma nodup_namesWithin (hr : a.Rooted) {levels d : Nat}
    (hd : climb a.parentOf? d name = some rootName) : (a.namesWithin levels name).Nodup := by
  induction levels generalizing d name with
  | zero => exact List.nodup_singleton name
  | succ levels ih =>
    have hchild {child : String} (hc : child ∈ a.childrenOf name) :
        climb a.parentOf? 1 child = some name := (climb_one _ child).trans (hr.parent_iff.mpr hc)
    rw [namesWithin, List.nodup_cons, List.nodup_flatMap]
    refine ⟨fun hself => ?_, fun child hc => ih ((climb_trans (hchild hc)).trans hd), ?_⟩
    · -- a group among those below it would be above itself
      obtain ⟨child, hc, hg⟩ := List.mem_flatMap.mp hself
      obtain ⟨m, hm⟩ := climb_of_mem_namesWithin hr hg
      have := climb_no_cycle hr.root hd ((climb_trans hm).trans (hchild hc))
      omega
    · refine (nodup_childrenOf hr.groups name).imp_of_mem fun hc hc' hne g hg hg' => hne ?_
      obtain ⟨m, hm⟩ := climb_of_mem_namesWithin hr hg
      obtain ⟨n, hn⟩ := climb_of_mem_namesWithin hr hg'
      exact climb_same_depth hr.root hd hm hn (hr.parent_iff.mpr hc) (hr.parent_iff.mpr hc')

def visits (a : Assembly) : Nat → List String → String → List Event
  | levels, ancestors, name =>
    .entered name :: (a.childrenOf name).flatMap fun child =>
      if (name :: ancestors).contains child then [.cyclicReference child]
      else
        match levels with
        | 0 => []
        | levels + 1 => visits a levels (name :: ancestors) child

lemma logs_buildLogged (a : Assembly) (levels : Nat) (ancestors : List String) (name : String)
    (parent : Option String) :
    Logs (a.buildLogged levels ancestors name parent) (a.build levels ancestors name parent)
      (a.visits levels ancestors name) := by
  have hcycle (child : String) : Logs
      (do note (.cyclicReference child); return none : Logged (Option Group)) (.ok none)
      [.cyclicReference child] := by
    have hboth := (logs_note (.cyclicReference child)).bind fun _ =>
      logs_pure (none : Option Group)
    rwa [List.append_nil] at hboth
  induction levels generalizing ancestors name parent with
  | zero =>
    rw [build_zero, buildLogged, visits]
    refine (logs_note (.entered name)).bind fun _ => Logs.assembleGroup fun child _ => ?_
    split
    · exact hcycle child
    · exact logs_lift (.ok none)
  | succ levels ih =>
    rw [build_succ, buildLogged, visits]
    refine (logs_note (.entered name)).bind fun _ => Logs.assembleGroup fun child _ => ?_
    split
    · exact hcycle child
    · exact ih (name :: ancestors) child (some name)

lemma visits_eq (hr : a.Rooted) (h : a.Below ancestors name) (levels : Nat) :
    a.visits levels ancestors name = (a.namesWithin levels name).map .entered := by
  induction levels generalizing ancestors name with
  | zero =>
    rw [visits, namesWithin, List.map_singleton, List.flatMap_congr fun child hc =>
      if_neg (h.not_contains hr hc)]
    simp
  | succ levels ih =>
    rw [visits, namesWithin, List.map_cons, List.map_flatMap]
    refine congrArg (Event.entered name :: ·) (List.flatMap_congr fun child hc => ?_)
    rw [if_neg (h.not_contains hr hc)]
    exact ih (h.child hr hc)

lemma buildUnchecked_eq (hr : a.Rooted) (h : a.Below ancestors name) (levels : Nat)
    (parent : Option String) :
    a.buildUnchecked levels name parent = a.build levels ancestors name parent := by
  induction levels generalizing ancestors name parent with
  | zero => rw [build_zero, buildUnchecked]; rfl
  | succ levels ih =>
    rw [build_succ_below hr h, buildUnchecked]
    exact assembleGroup_congr fun child hc => ih (h.child hr hc) _

lemma mapM_lift {α β : Type} (f : α → Except QueryError β) (xs : List α) :
    xs.mapM (fun x => (liftM (f x) : ExceptT QueryError Option β)) = liftM (xs.mapM f) := by
  induction xs with
  | nil => rfl
  | cons x xs ih =>
    rw [List.mapM_cons, List.mapM_cons, ih]
    cases f x with
    | error e => rfl
    | ok y => cases xs.mapM f <;> rfl

lemma assembleGroup_lift (inner : String → Except QueryError (Option Group)) :
    a.assembleGroup (fun child => (liftM (inner child) : ExceptT QueryError Option (Option Group)))
      name parent = liftM (a.assembleGroup inner name parent) := by
  rw [assembleGroup, assembleGroup, mapM_lift]
  cases a.leavesOf name with
  | error e => rfl
  | ok leaves => cases (a.childrenOf name).mapM inner <;> rfl

lemma Rooted.lt_of_child (hr : a.Rooted) {height m : Nat} {child g : String}
    (hheight : ∀ m g, climb a.parentOf? m g = some name → m ≤ height)
    (hc : child ∈ a.childrenOf name) (hm : climb a.parentOf? m g = some child) : m < height :=
  hheight (m + 1) g ((climb_succ_eq _ m g name).mpr ⟨child, hm, hr.parent_iff.mpr hc⟩)

lemma buildUnlimited_eq (hr : a.Rooted) {height calls : Nat} (hcalls : height < calls)
    (h : a.Below ancestors name) (parent : Option String)
    (hheight : ∀ m g, climb a.parentOf? m g = some name → m ≤ height) :
    a.buildUnlimited calls name parent = liftM (a.build height ancestors name parent) := by
  induction height generalizing ancestors name parent calls with
  | zero =>
    obtain ⟨calls, rfl⟩ := Nat.exists_eq_add_one_of_ne_zero (Nat.ne_zero_of_lt hcalls)
    rw [buildUnlimited, build_zero, ← assembleGroup_lift]
    refine assembleGroup_congr fun child hc => ?_
    exact absurd (hr.lt_of_child hheight hc rfl) (Nat.not_lt_zero 0)
  | succ height ih =>
    obtain ⟨calls, rfl⟩ := Nat.exists_eq_add_one_of_ne_zero (Nat.ne_zero_of_lt hcalls)
    rw [buildUnlimited, build_succ_below hr h, ← assembleGroup_lift]
    refine assembleGroup_congr fun child hc =>
      ih (Nat.lt_of_succ_lt_succ hcalls) (h.child hr hc) _ ?_
    exact fun m g hm => Nat.le_of_lt_succ (hr.lt_of_child hheight hc hm)

end Assembly

def assembleLogged (cs : List Capture) : Assembly.Logged (Option Group) := do
  let a ← liftM (Assembly.ofCaptures cs)
  a.buildLogged maxGroupDepth [] rootName none

def assembleUnchecked (cs : List Capture) : Except QueryError (Option Group) := do
  let a ← Assembly.ofCaptures cs
  a.buildUnchecked maxGroupDepth rootName none

def assembleUnlimited (calls : Nat) (cs : List Capture) :
    ExceptT QueryError Option (Option Group) := do
  let a ← liftM (Assembly.ofCaptures cs)
  a.buildUnlimited calls rootName none

lemma assembleLogged_eq (cs : List Capture) : ∃ names : List String, names.Nodup ∧
    (assembleLogged cs).run.run [] = (assemble cs, names.map .entered) := by
  cases ha : Assembly.ofCaptures cs with
  | error e =>
    refine ⟨[], List.nodup_nil, ?_⟩
    rw [assembleLogged, assemble, ha]
    rfl
  | ok a =>
    obtain ⟨hr, -⟩ := Assembly.rooted_of_ofCaptures ha
    have hlogs := a.logs_buildLogged maxGroupDepth [] rootName none
    rw [Assembly.visits_eq hr a.below_root] at hlogs
    obtain ⟨es, hes, hrun⟩ := hlogs
    obtain ⟨names, hnames, rfl⟩ := List.sublist_map_iff.mp hes
    refine ⟨names, (Assembly.nodup_namesWithin hr (d := 0) rfl).sublist hnames, ?_⟩
    rw [assembleLogged, assemble, ha]
    exact hrun []

lemma assembleUnchecked_eq (cs : List Capture) : assembleUnchecked cs = assemble cs := by
  rw [assembleUnchecked, assemble]
  cases ha : Assembly.ofCaptures cs with
  | error e => rfl
  | ok a =>
    obtain ⟨hr, -⟩ := Assembly.rooted_of_ofCaptures ha
    exact Assembly.buildUnchecked_eq hr a.below_root maxGroupDepth none

lemma assembleUnlimited_eq {calls : Nat} {cs : List Capture}
    (h : (cs.filterMap Capture.declaration?).length < calls) :
    (assembleUnlimited calls cs).run = some (do
      let a ← Assembly.ofCaptures cs
      a.build (cs.filterMap Capture.declaration?).length [] rootName none) := by
  rw [assembleUnlimited]
  cases ha : Assembly.ofCaptures cs with
  | error e => rfl
  | ok a =>
    obtain ⟨hr, hlength⟩ := Assembly.rooted_of_ofCaptures ha
    have hend := Assembly.buildUnlimited_eq hr h a.below_root none
      fun m g hm => Nat.le_trans (hr.climb_le_length hm) hlength
    exact congrArg ExceptT.run hend

/--
However the groups are declared, building the tree goes into each group at most once and never
comes back to a group that it is in. So it gives the same without a look at the ancestors. Without
a limit, too, it ends: no more calls lie inside the first one than there are declarations, and it
gives what it gives when that many levels are the limit.
-/
theorem assemble_acyclic (cs : List Capture) :
    (∃ names : List String, names.Nodup ∧
      (assembleLogged cs).run.run [] = (assemble cs, names.map .entered)) ∧
    assembleUnchecked cs = assemble cs ∧
    ∀ calls > (cs.filterMap Capture.declaration?).length,
      (assembleUnlimited calls cs).run = some (do
        let a ← Assembly.ofCaptures cs
        a.build (cs.filterMap Capture.declaration?).length [] rootName none) :=
  ⟨assembleLogged_eq cs, assembleUnchecked_eq cs, fun _ hcalls => assembleUnlimited_eq hcalls⟩

def circlingPairs : List Capture :=
  [ .declaration ⟨"left", some "right", none⟩,
    .declaration ⟨"right", some "left", some .or⟩,
    .declaration ⟨"right", none, none⟩,
    .clause ⟨some "left", none, "age", .equalTo, ["1"]⟩,
    .declaration ⟨"inner", some "inner", none⟩,
    .declaration ⟨"inner", none, none⟩,
    .declaration ⟨"root", some "inner", none⟩,
    .clause ⟨some "inner", none, "age", .equalTo, ["2"]⟩ ]

theorem assemble_acyclic_circlingPairs :
    7 > (circlingPairs.filterMap Capture.declaration?).length ∧
    (assembleLogged circlingPairs).run.run [] =
      (assemble circlingPairs, [.entered "root", .entered "inner"]) ∧
    (∃ names : List String, names.Nodup ∧
      (assembleLogged circlingPairs).run.run [] = (assemble circlingPairs, names.map .entered)) ∧
    assembleUnchecked circlingPairs = assemble circlingPairs ∧
    (assembleUnlimited 7 circlingPairs).run = some (do
      let a ← Assembly.ofCaptures circlingPairs
      a.build (circlingPairs.filterMap Capture.declaration?).length [] rootName none) := by
  have hcalls : 7 > (circlingPairs.filterMap Capture.declaration?).length := by decide
  obtain ⟨hlog, hunchecked, hunlimited⟩ := assemble_acyclic circlingPairs
  exact ⟨hcalls, rfl, hlog, hunchecked, hunlimited 7 hcalls⟩

end BracketQuery
