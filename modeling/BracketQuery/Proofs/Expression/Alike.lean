import BracketQuery.Proofs.Expression.ValueOrder
import BracketQuery.Proofs.Ordered
import Mathlib.Data.List.Perm.Subperm

/-! Nodes that differ in the order of values only hold of the same entities, so it does not show
which of them a group keeps. -/

namespace BracketQuery

lemma ValueSet.perm_of_alike {s t : ValueSet} (h : s.alike t = true) :
    s.toList.Perm t.toList := by
  simp only [alike, Bool.and_eq_true, beq_iff_eq, List.all_eq_true, List.contains_iff_mem] at h
  exact (List.subperm_of_subset s.nodup h.2).perm_of_length_le (Nat.le_of_eq h.1.symm)

namespace Node

-- the induction goes over both trees at once, and over their lists of children
mutual

lemma denote_eq_of_alike (entity : Json.Value) : ∀ {m n : Node}, m.alike n = true →
    m.denote .standard entity = n.denote .standard entity
  | leaf a, leaf b, h => by
    simp only [alike, Leaf.alike, Bool.and_eq_true, beq_iff_eq] at h
    obtain ⟨⟨⟨-, hp⟩, ho⟩, hv⟩ := h
    exact denote_leaf_of_perm hp ho (ValueSet.perm_of_alike hv) entity
  | group g cs, group k ds, h => by
    simp only [alike, Bool.and_eq_true, beq_iff_eq] at h
    obtain ⟨rfl, hc⟩ := h
    have hd := map_denote_eq_of_alike entity hc
    have hall := congrArg (List.all · id) hd
    have hany := congrArg (List.any · id) hd
    have hlen := congrArg List.isEmpty hd
    simp only [List.all_map, List.any_map, Function.id_comp, List.isEmpty_map] at hall hany hlen
    rw [denote, denote, denoteAll_eq_all, denoteAll_eq_all, denoteAny_eq_any, denoteAny_eq_any,
      hall, hany, hlen]
  | leaf a, group k ds, h => by simp [alike] at h
  | group g cs, leaf b, h => by simp [alike] at h

lemma map_denote_eq_of_alike (entity : Json.Value) : ∀ {cs ds : List Node}, allAlike cs ds = true →
    cs.map (denote .standard entity) = ds.map (denote .standard entity)
  | [], [], _ => rfl
  | c :: cs, d :: ds, h => by
    simp only [allAlike, Bool.and_eq_true] at h
    rw [List.map_cons, List.map_cons, denote_eq_of_alike entity h.1,
      map_denote_eq_of_alike entity h.2]
  | [], d :: ds, h => by simp [allAlike] at h
  | c :: cs, [], h => by simp [allAlike] at h

end

lemma denote_firsts (head : Heading) (cs : List Node) (entity : Json.Value) :
    (group head (firsts alike cs)).denote .standard entity =
      (group head cs).denote .standard entity := by
  apply denote_group rfl
  · exact fun c hc => ⟨c, mem_of_mem_firsts hc, rfl⟩
  · intro c hc
    have halike (k d : Node) (h : alike k d = true)
        (he : d.denote .standard entity = c.denote .standard entity) :
        k.denote .standard entity = c.denote .standard entity :=
      (denote_eq_of_alike entity h).trans he
    exact exists_mem_firsts halike hc rfl

lemma mem_leavesIn {cs : List Node} {l : Leaf} : l ∈ leavesIn cs ↔ ∃ c ∈ cs, l ∈ leaves c := by
  induction cs with
  | nil => simp [leavesIn]
  | cons c cs ih => simp [leavesIn, ih]

/-- Nodes that are alike compile to expressions that hold of the same entities. So a group that is
made of children holds of what all of them together hold of, those that are left out included. -/
theorem compile_alike :
    (∀ m n : Node, m.alike n = true →
      (∀ l ∈ m.leaves ++ n.leaves, l.operator ∈ Registry.standard.supported) →
      ∃ e f, m.compile .standard = .ok e ∧ n.compile .standard = .ok f ∧
        ∀ entity, e.holds entity = f.holds entity) ∧
    ∀ (name : String) (parent : Option String) (conjunction : Conjunction) (cs : List Node),
      Text.isBlankString name = false →
      (∀ l ∈ leavesIn cs, l.operator ∈ Registry.standard.supported) →
      ∃ g e es, Group.make name parent conjunction cs = .ok g ∧ g.compile .standard = .ok e ∧
        compileAll .standard cs = .ok es ∧
        ∀ entity, e.holds entity =
          (es.isEmpty || match conjunction with
            | .and => es.all (Expression.holds entity)
            | .or => es.any (Expression.holds entity)) := by
  refine ⟨?_, ?_⟩
  · intro m n h hs
    obtain ⟨e, he, hde, -⟩ := compile_ok .standard m fun l hl => hs l (by simp [hl])
    obtain ⟨f, hf, hdf, -⟩ := compile_ok .standard n fun l hl => hs l (by simp [hl])
    refine ⟨e, f, he, hf, fun entity => ?_⟩
    rw [hde, hdf, denote_eq_of_alike entity h]
  · intro name parent conjunction cs hn hs
    let head : Heading := ⟨name, parent, conjunction⟩
    have hfirsts : ∀ l ∈ leavesIn (firsts alike cs),
        l.operator ∈ Registry.standard.supported := by
      intro l hl
      obtain ⟨c, hc, hl⟩ := mem_leavesIn.mp hl
      exact hs l (mem_leavesIn.mpr ⟨c, mem_of_mem_firsts hc, hl⟩)
    obtain ⟨e, he, hde, -⟩ := compile_ok .standard (group head (firsts alike cs)) hfirsts
    obtain ⟨f, hf, hdf, -⟩ := compile_ok .standard (group head cs) hs
    obtain ⟨es, hes, -⟩ := compileAll_ok .standard cs hs
    obtain rfl : .combine conjunction es = f := by simpa [compile, hes, Except.map, head] using hf
    have hmake : Group.make name parent conjunction cs = .ok ⟨head, firsts alike cs⟩ := by
      simp [Group.make, hn, head]
    refine ⟨_, e, es, hmake, he, hes, fun entity => ?_⟩
    rw [hde, denote_firsts, ← hdf]
    cases conjunction <;> exact Expression.holds_combine entity _ es

def choice (name : String) (bounds patterns : List String) : Node :=
  .group ⟨name, some "root", .or⟩
    [.leaf ⟨"age", some name, "age", .between, .ofList bounds⟩,
      .leaf ⟨"tag", some name, "tag", .regex, .ofList patterns⟩]

theorem compile_alike_choice :
    let m := choice "g" ["9", "1"] ["^a", "("]
    let n := choice "g" ["1", "9"] ["(", "^a"]
    let cs := [m, choice "h" ["9", "1"] [], n]
    m.alike n = true ∧
    (∀ l ∈ m.leaves ++ n.leaves, l.operator ∈ Registry.standard.supported) ∧
    Text.isBlankString "root" = false ∧
    (∀ l ∈ leavesIn cs, l.operator ∈ Registry.standard.supported) ∧
    (firsts alike cs).length = 2 ∧
    (∃ e f, m.compile .standard = .ok e ∧ n.compile .standard = .ok f ∧
      ∀ entity, e.holds entity = f.holds entity) ∧
    ∃ g e es, Group.make "root" none .and cs = .ok g ∧ g.compile .standard = .ok e ∧
      compileAll .standard cs = .ok es ∧
      ∀ entity, e.holds entity = (es.isEmpty || es.all (Expression.holds entity)) := by
  intro m n cs
  have h : m.alike n = true := by decide
  have hs : ∀ l ∈ m.leaves ++ n.leaves, l.operator ∈ Registry.standard.supported := by decide
  have hn : Text.isBlankString "root" = false := by decide
  have hc : ∀ l ∈ leavesIn cs, l.operator ∈ Registry.standard.supported := by decide
  exact ⟨h, hs, hn, hc, by decide, compile_alike.1 m n h hs,
    compile_alike.2 "root" none .and cs hn hc⟩

end Node

end BracketQuery
