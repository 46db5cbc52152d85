import BracketQuery.Proofs.Expression.Denotation

/-! A filter fails to compile at its first leaf without a handler, and for no other reason. -/

namespace BracketQuery

namespace Registry

variable {r : Registry} {l : Leaf} {ls : List Leaf}

def lacks (r : Registry) (l : Leaf) : Bool := (r.handler? l.operator).isNone

lemma lacks_eq_true : r.lacks l = true ↔ r.handler? l.operator = none := Option.isNone_iff_eq_none

lemma lacks_eq_false : r.lacks l = false ↔ ∃ h, r.handler? l.operator = some h := by
  rw [lacks, Option.isNone_eq_false_iff, Option.isSome_iff_exists]

lemma build_of_lacks (h : r.lacks l = true) :
    r.build l = .error (.unsupportedOperator l.operator r.supported) := by
  rw [build, lacks_eq_true.mp h]

lemma find?_lacks_eq_none :
    ls.find? r.lacks = none ↔ ∀ l ∈ ls, ∃ h, r.handler? l.operator = some h := by
  simp only [List.find?_eq_none, Bool.not_eq_true, lacks_eq_false]

lemma find?_lacks_eq_some : ls.find? r.lacks = some l ↔ ∃ before after,
    ls = before ++ l :: after ∧ (∀ m ∈ before, ∃ h, r.handler? m.operator = some h) ∧
      r.handler? l.operator = none := by
  simp only [List.find?_eq_some_iff_append, Bool.not_eq_true', lacks_eq_true, lacks_eq_false]
  constructor
  · rintro ⟨hl, before, after, hls, hb⟩
    exact ⟨before, after, hls, hb, hl⟩
  · rintro ⟨before, after, hls, hb, hl⟩
    exact ⟨hl, before, after, hls, hb⟩

end Registry

namespace Node

variable {r : Registry} {l : Leaf}

lemma compile_of_find? {n : Node} (h : n.leaves.find? r.lacks = none) :
    ∃ e, n.compile r = .ok e := by
  obtain ⟨e, he, -⟩ := compile_ok r n fun l hl =>
    Registry.mem_supported.mpr (Registry.find?_lacks_eq_none.mp h l hl)
  exact ⟨e, he⟩

mutual

lemma compile_eq_error : ∀ n : Node, n.leaves.find? r.lacks = some l →
    n.compile r = .error (.unsupportedOperator l.operator r.supported)
  | .leaf m, h => by
    obtain ⟨hm, rfl⟩ : r.lacks m = true ∧ m = l := by simpa [leaves] using h
    rw [compile, Registry.build_of_lacks hm, Except.map]
  | .group head cs, h => by
    rw [leaves] at h
    rw [compile, compileAll_eq_error cs h, Except.map]

lemma compileAll_eq_error : ∀ cs : List Node, (leavesIn cs).find? r.lacks = some l →
    compileAll r cs = .error (.unsupportedOperator l.operator r.supported)
  | [], h => by cases h
  | c :: cs, h => by
    rw [leavesIn, List.find?_append] at h
    cases hc : c.leaves.find? r.lacks with
    | some m =>
      obtain rfl : l = m := by simpa [hc, eq_comm] using h
      rw [compileAll, compile_eq_error c hc]
    | none =>
      -- the children before the failing one compile
      obtain ⟨e, he⟩ := compile_of_find? hc
      rw [hc, Option.none_or] at h
      rw [compileAll, he]
      simp only [compileAll_eq_error cs h, Except.map]

end

lemma compile_eq_ok_iff {n : Node} :
    (∃ e, n.compile r = .ok e) ↔ n.leaves.find? r.lacks = none := by
  refine ⟨fun ⟨e, he⟩ => ?_, compile_of_find?⟩
  cases hf : n.leaves.find? r.lacks with
  | none => rfl
  | some l => cases he.symm.trans (compile_eq_error n hf)

lemma compile_eq_error_iff {n : Node} {error : QueryError} : n.compile r = .error error ↔
    ∃ l, n.leaves.find? r.lacks = some l ∧
      error = .unsupportedOperator l.operator r.supported := by
  cases hf : n.leaves.find? r.lacks with
  | none =>
    obtain ⟨e, he⟩ := compile_of_find? hf
    simp [he]
  | some l => simp [compile_eq_error n hf, eq_comm]

end Node

/-- A filter compiles exactly if every leaf in it has a handler. Otherwise the error names the
operator of the first leaf without one, depth first, and the operators that have one, in their order. -/
theorem compileFilter_firstUnsupported (r : Registry) (g : Group) :
    ((∃ e, compileFilter r (some g) = .ok e) ↔
      ∀ l ∈ g.toNode.leaves, ∃ h, r.handler? l.operator = some h) ∧
    ∀ error, compileFilter r (some g) = .error error ↔
      ∃ before l after, g.toNode.leaves = before ++ l :: after ∧
        (∀ m ∈ before, ∃ h, r.handler? m.operator = some h) ∧
        r.handler? l.operator = none ∧
        error = .unsupportedOperator l.operator
          (Operator.all.filter fun o => (r.handler? o).isSome) := by
  have hcompile : compileFilter r (some g) = g.toNode.compile r := rfl
  rw [hcompile, Node.compile_eq_ok_iff, Registry.find?_lacks_eq_none]
  refine ⟨.rfl, fun error => ?_⟩
  rw [Node.compile_eq_error_iff]
  constructor
  · rintro ⟨l, hf, rfl⟩
    obtain ⟨before, after, hl, hb, hn⟩ := Registry.find?_lacks_eq_some.mp hf
    exact ⟨before, l, after, hl, hb, hn, rfl⟩
  · rintro ⟨before, l, after, hl, hb, hn, rfl⟩
    exact ⟨l, Registry.find?_lacks_eq_some.mpr ⟨before, after, hl, hb, hn⟩, rfl⟩

end BracketQuery
