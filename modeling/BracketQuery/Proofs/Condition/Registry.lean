import BracketQuery.Condition.Registry
import BracketQuery.Proofs.Ordered

/-! Of the handlers that claim an operator the last one has it, and each of them but the first one
has met the one before it. -/

namespace BracketQuery.Registry

def claimers (hs : List Handler) (o : Operator) : List Handler := hs.filter fun h => h.claims o

def takeovers (o : Operator) (hs : List Handler) : List Overlap :=
  (hs.zip hs.tail).map fun p => ⟨o, p.1.family, p.2.family⟩

variable {hs : List Handler} {r : Registry} {o p : Operator} {h : Handler}

lemma handler?_claim : (claim o r h).handler? p = if p = o then some h else r.handler? p := by
  have hc : (claim o r h).handlers = (o, h) :: r.handlers := by
    unfold claim
    split <;> rfl
  rw [handler?, hc]
  by_cases hp : p = o
  · rw [if_pos hp, hp, List.lookup_cons_self]
  · rw [if_neg hp, List.lookup_cons, beq_false_of_ne hp, handler?]

lemma overlaps_claim :
    (claim o r h).overlaps = r.overlaps ++ takeovers o ((r.handler? o).toList ++ [h]) := by
  unfold claim
  split
  · next hn => simp [hn, takeovers]
  · next previous hp => simp [hp, takeovers]

lemma handler?_foldl_claim (cs : List Handler) : (cs.foldl (claim o) r).handler? p =
    if p = o then cs.getLast?.or (r.handler? o) else r.handler? p := by
  induction cs generalizing r with
  | nil => by_cases hp : p = o <;> simp [hp]
  | cons c cs ih =>
    rw [List.foldl_cons, ih, handler?_claim, handler?_claim, List.getLast?_cons]
    by_cases hp : p = o <;> cases cs.getLast? <;> simp [hp]

lemma overlaps_foldl_claim (cs : List Handler) : (cs.foldl (claim o) r).overlaps =
    r.overlaps ++ takeovers o ((r.handler? o).toList ++ cs) := by
  induction cs generalizing r with
  | nil => cases r.handler? o <;> simp [takeovers]
  | cons c cs ih =>
    rw [List.foldl_cons, ih, overlaps_claim, handler?_claim, if_pos rfl, List.append_assoc]
    congr 1
    cases r.handler? o <;> simp [takeovers]

lemma foldl_claimers (hs : List Handler) (os : List Operator) (hd : os.Nodup)
    (hr : ∀ o ∈ os, r.handler? o = none) :
    let s := os.foldl (fun r o => (claimers hs o).foldl (claim o) r) r
    (∀ o, s.handler? o = if o ∈ os then (claimers hs o).getLast? else r.handler? o) ∧
    s.overlaps = r.overlaps ++ os.flatMap fun o => takeovers o (claimers hs o) := by
  induction os generalizing r with
  | nil => simp
  | cons o os ih =>
    obtain ⟨hn, hd⟩ := List.nodup_cons.mp hd
    obtain ⟨ho, hos⟩ := List.forall_mem_cons.mp hr
    -- the claims of one operator leave the others without a handler
    have hrest : ∀ p ∈ os, ((claimers hs o).foldl (claim o) r).handler? p = none := by
      intro p hp
      rw [handler?_foldl_claim, if_neg (by rintro rfl; exact hn hp), hos p hp]
    obtain ⟨hh, hl⟩ := ih hd hrest
    refine ⟨fun p => ?_, ?_⟩
    · rw [List.foldl_cons, hh, handler?_foldl_claim, ho, Option.or_none]
      by_cases hp : p = o
      · simp [hp, hn]
      · simp [hp]
    · rw [List.foldl_cons, hl, overlaps_foldl_claim, ho]
      simp

lemma handler?_ofHandlers_eq (hs : List Handler) (o : Operator) :
    (ofHandlers hs).handler? o = (claimers hs o).getLast? := by
  have h := (foldl_claimers (r := empty) hs Operator.all (by decide) fun _ _ => rfl).1 o
  rwa [if_pos o.mem_all] at h

lemma overlaps_ofHandlers (hs : List Handler) :
    (ofHandlers hs).overlaps = Operator.all.flatMap fun o => takeovers o (claimers hs o) :=
  (foldl_claimers (r := empty) hs Operator.all (by decide) fun _ _ => rfl).2

lemma handler?_ofHandlers (hh : (ofHandlers hs).handler? o = some h) : h ∈ hs := by
  rw [handler?_ofHandlers_eq] at hh
  exact (List.mem_filter.mp (List.mem_of_getLast? hh)).1

lemma getLast?_claimers : (claimers hs o).getLast? = some h ↔
    ∃ before after, hs = before ++ h :: after ∧ h.claims o = true ∧
      ∀ k ∈ after, k.claims o = false := by
  rw [claimers, List.getLast?_eq_head?_reverse, ← List.filter_reverse, List.head?_filter,
    List.find?_eq_some_iff_append]
  simp only [Bool.not_eq_true']
  constructor
  · rintro ⟨hc, after, before, hs', ha⟩
    refine ⟨before.reverse, after.reverse, ?_, hc, fun k hk => ha k (List.mem_reverse.mp hk)⟩
    rw [← List.reverse_reverse hs, hs']
    simp
  · rintro ⟨before, after, rfl, hc, ha⟩
    refine ⟨hc, after.reverse, before.reverse, ?_, fun k hk => ha k (List.mem_reverse.mp hk)⟩
    simp

lemma handler?_ofHandlers_eq_none :
    (ofHandlers hs).handler? o = none ↔ ∀ h ∈ hs, h.claims o = false := by
  simp [handler?_ofHandlers_eq, claimers]

lemma isSome_handler?_ofHandlers (hs : List Handler) (o : Operator) :
    ((ofHandlers hs).handler? o).isSome = hs.any fun h => h.claims o := by
  rw [Bool.eq_iff_iff, Option.isSome_iff_ne_none, ne_eq, handler?_ofHandlers_eq_none,
    List.any_eq_true]
  push Not
  simp only [ne_eq, Bool.not_eq_false]

lemma length_takeovers (o : Operator) (hs : List Handler) :
    (takeovers o hs).length = hs.length - 1 := by
  simp [takeovers]

lemma filter_overlaps_ofHandlers (hs : List Handler) (o : Operator) :
    ((ofHandlers hs).overlaps.filter fun v => v.operator = o) = takeovers o (claimers hs o) := by
  rw [overlaps_ofHandlers]
  have hnodup : (Operator.all.map id).Nodup := by decide
  refine filter_flatMap_of_nodup hnodup ?_ o.mem_all
  intro p _ v hv
  obtain ⟨q, -, rfl⟩ := List.mem_map.mp hv
  rfl

/-- The last handler that claims an operator has it, and the operators are split into those that some
handler claims and those that none does. The record shows each handler that lost an operator with the
one that took it, operator by operator, one entry less than there are claims. -/
theorem ofHandlers_lastClaim (hs : List Handler) :
    let r := ofHandlers hs
    (∀ o h, r.handler? o = some h ↔ ∃ before after, hs = before ++ h :: after ∧
      h.claims o = true ∧ ∀ k ∈ after, k.claims o = false) ∧
    (∀ o, r.handler? o = none ↔ ∀ h ∈ hs, h.claims o = false) ∧
    r.supported = Operator.all.filter (fun o => hs.any fun h => h.claims o) ∧
    r.unsupported = Operator.all.filter (fun o => !hs.any fun h => h.claims o) ∧
    r.overlaps = Operator.all.flatMap (fun o => takeovers o (claimers hs o)) ∧
    ∀ o, (r.overlaps.filter fun v => v.operator = o).length = (claimers hs o).length - 1 := by
  refine ⟨fun o h => ?_, fun o => handler?_ofHandlers_eq_none, ?_, ?_, overlaps_ofHandlers hs,
    fun o => ?_⟩
  · rw [handler?_ofHandlers_eq, getLast?_claimers]
  · simp only [supported, isSome_handler?_ofHandlers]
  · simp only [unsupported, ← Option.not_isSome, isSome_handler?_ofHandlers]
  · rw [filter_overlaps_ofHandlers, length_takeovers]

end BracketQuery.Registry
