import BracketQuery.Proofs.Pattern.FirstWay
import BracketQuery.Proofs.Text.CaseFolding

/-! What a pattern takes on any of its ways, and where it has none. -/

namespace BracketQuery.Pattern

open Cursor

/-- On each of its ways the pattern takes a text with this property. -/
def Takes (p : Pattern) (q : List Char → Prop) : Prop :=
  ∀ c d, d ∈ p.run none c → ∃ x, c.rest = x ++ d.rest ∧ q x

section

variable {p : Pattern} {ps : List Pattern} {r s : List Char → Prop} {before after : List Char}

lemma Takes.imp (hp : Takes p r) (h : ∀ x, r x → s x) : Takes p s := by
  intro c d hd
  obtain ⟨x, hx, hr⟩ := hp c d hd
  exact ⟨x, hx, h x hr⟩

lemma takes_chars (set : CharSet) : Takes (chars set) fun x => ∃ c, x = [c] ∧ set.contains c := by
  intro c d h
  rw [run, Option.mem_toList, take?] at h
  split at h
  · cases h
  · next e r hr =>
    split at h
    · next hc =>
      cases h
      exact ⟨[e], hr, e, rfl, hc⟩
    · cases h

lemma Takes.join_cons (hp : Takes p r) (hs : Takes (join ps) s) :
    Takes (join (p :: ps)) fun x => ∃ y z, x = y ++ z ∧ r y ∧ s z := by
  intro c e h
  obtain ⟨d, hd, he⟩ := mem_run_join_cons h
  obtain ⟨y, hy, hry⟩ := hp c d hd
  obtain ⟨z, hz, hsz⟩ := hs d e he
  exact ⟨y ++ z, by rw [hy, hz, List.append_assoc], y, z, rfl, hry, hsz⟩

lemma takes_word (w : List Char) : Takes (word w) fun x => Text.foldsTo w x = true := by
  induction w with
  | nil =>
    intro c d h
    obtain rfl : d = c := by simpa [word, join, run] using h
    exact ⟨[], rfl, rfl⟩
  | cons a w ih =>
    intro c d h
    obtain ⟨x, hx, y, z, rfl, ⟨e, rfl, he⟩, hz⟩ := (takes_chars _).join_cons ih c d h
    exact ⟨_, hx, by simp [Text.foldsTo, he, hz]⟩

lemma Takes.named (n : String) (h : Takes p r) : Takes (named n p) r := by
  intro c d hd
  rw [Pattern.named, run, List.mem_map] at hd
  obtain ⟨e, he, rfl⟩ := hd
  exact h c e he

lemma Takes.seq {q : Pattern} (hp : Takes p r) (hq : Takes q s) :
    Takes (seq p q) fun x => ∃ y z, x = y ++ z ∧ r y ∧ s z := by
  intro c e h
  obtain ⟨d, hd, he⟩ := mem_run_seq h
  obtain ⟨y, hy, hry⟩ := hp c d hd
  obtain ⟨z, hz, hsz⟩ := hq d e he
  exact ⟨y ++ z, by rw [hy, hz, List.append_assoc], y, z, rfl, hry, hsz⟩

lemma Takes.either {q : Pattern} (hp : Takes p r) (hq : Takes q s) :
    Takes (either p q) fun x => r x ∨ s x := by
  intro c d h
  rw [run] at h
  rcases mem_merge h with h | h
  · obtain ⟨x, hx, hr⟩ := hp c d h
    exact ⟨x, hx, .inl hr⟩
  · obtain ⟨x, hx, hs⟩ := hq c d h
    exact ⟨x, hx, .inr hs⟩

lemma mem_along {set : CharSet} {pos : Nat} {prev : Option Char} {spans : List Span}
    {rest : List Char} {d : Cursor} (h : d ∈ along set pos prev spans rest) :
    ∃ x, rest = x ++ d.rest ∧ ∀ c ∈ x, set.contains c = true := by
  induction rest generalizing pos prev with
  | nil =>
    obtain rfl := List.mem_singleton.mp h
    exact ⟨[], rfl, by simp⟩
  | cons e rest ih =>
    rw [along, List.mem_cons] at h
    rcases h with rfl | h
    · exact ⟨[], rfl, by simp⟩
    · split at h
      · next he =>
        obtain ⟨x, rfl, hx⟩ := ih h
        exact ⟨e :: x, rfl, by simpa [he] using hx⟩
      · cases h

lemma takes_star_chars (set : CharSet) :
    Takes (star (chars set)) fun x => ∀ c ∈ x, set.contains c = true := by
  intro c d h
  simp only [star, run, List.drop_zero, Bool.false_eq_true, if_false, List.mem_reverse] at h
  exact mem_along h

lemma takes_plus_chars (set : CharSet) :
    Takes (plus (chars set)) fun x => x ≠ [] ∧ ∀ c ∈ x, set.contains c = true := by
  intro c d h
  simp only [plus, run, Bool.false_eq_true, if_false, List.mem_reverse] at h
  cases hr : c.rest with
  | nil => simp [hr, along] at h
  | cons e rest =>
    rw [hr, along, List.drop_one, List.tail_cons] at h
    split at h
    · next he =>
      obtain ⟨x, rfl, hx⟩ := mem_along h
      exact ⟨e :: x, rfl, by simp, List.forall_mem_cons.mpr ⟨he, hx⟩⟩
    · cases h

lemma mem_distinct {cs : List Cursor} {d : Cursor} (h : d ∈ distinct cs) : d ∈ cs := by
  induction cs with
  | nil => exact h
  | cons c cs ih =>
    rcases List.mem_cons.mp h with rfl | h
    · exact List.mem_cons_self
    · exact List.mem_cons_of_mem _ (ih (List.mem_filter.mp h).1)

lemma Takes.optional (hc : p.charSet? = none) (hp : Takes p r) :
    Takes (optional p) fun x => x = [] ∨ r x := by
  intro c d h
  rw [run_optional hc] at h
  rcases mem_merge h with h | h
  · rcases List.mem_append.mp (mem_distinct h) with h | h
    · obtain ⟨x, hx, hr⟩ := hp c d h
      exact ⟨x, hx, .inr hr⟩
    · obtain rfl := List.mem_singleton.mp h
      exact ⟨[], rfl, .inl rfl⟩
  · cases h

lemma mem_foldl {σ : Type} {f : List Cursor × σ → Cursor → List Cursor × σ}
    {q : Cursor → Cursor → Prop} {d : Cursor}
    (hf : ∀ o s c, d ∈ (f (o, s) c).1 → d ∈ o ∨ q c d) (cs o : List Cursor) (s : σ)
    (h : d ∈ (cs.foldl f (o, s)).1) : d ∈ o ∨ ∃ c ∈ cs, q c d := by
  induction cs generalizing o s with
  | nil => exact .inl h
  | cons c cs ih =>
    rcases ih (f (o, s) c).1 (f (o, s) c).2 h with hd | ⟨e, he, hq⟩
    · exact (hf o s c hd).imp_right fun hq => ⟨c, List.mem_cons_self, hq⟩
    · exact .inr ⟨e, List.mem_cons_of_mem _ he, hq⟩

lemma mem_rounds (hp : Takes p r) {fuel : Nat} {todo : List Cursor} {seen : List (Nat × Nat)}
    {d : Cursor}
    (h : d ∈ (rounds (fun _ => p.run none) (fun _ => none) false (fun _ => 0) fuel todo seen).1) :
    ∃ c ∈ todo, ∃ xs : List (List Char), c.rest = xs.flatten ++ d.rest ∧ ∀ x ∈ xs, r x := by
  induction fuel generalizing todo seen with
  | zero => exact ⟨d, (List.mem_filter.mp h).1, [], rfl, by simp⟩
  | succ fuel ih =>
    rw [rounds] at h
    refine (mem_foldl (q := fun c d => ∃ xs : List (List Char),
      c.rest = xs.flatten ++ d.rest ∧ ∀ x ∈ xs, r x) ?_ _ _ _ h).resolve_left List.not_mem_nil
    intro o s c hd
    simp only [pass?, Bool.false_eq_true, if_false] at hd
    split at hd
    · exact .inl hd
    · simp only [List.mem_append, List.mem_singleton] at hd
      rcases hd with hd | hd | rfl
      · exact .inl hd
      · obtain ⟨e, he, xs, hxs, hr⟩ := ih hd
        obtain ⟨x, hx, hrx⟩ := hp c e he
        exact .inr ⟨x :: xs, by simp [hx, hxs], List.forall_mem_cons.mpr ⟨hrx, hr⟩⟩
      · exact .inr ⟨[], rfl, by simp⟩

lemma takes_star (hc : p.charSet? = none) (hn : p.isNullable = false) (hp : Takes p r) :
    Takes (star p) fun x => ∃ xs : List (List Char), x = xs.flatten ∧ ∀ y ∈ xs, r y := by
  intro c d h
  rw [star, run] at h
  · simp only [hn, Bool.and_false, Bool.false_eq_true, if_false, Option.map_none, repeated, loop] at h
    obtain ⟨e, he, xs, hxs, hr⟩ := mem_rounds hp (mem_distinct h)
    obtain rfl := List.mem_singleton.mp he
    exact ⟨_, hxs, xs, rfl, hr⟩
  · simpa using ne_chars hc

lemma fails_join_cons (h : p.Fails after) : (join (p :: ps)).Fails after := by
  intro c hc
  rw [List.eq_nil_iff_forall_not_mem]
  intro e he
  obtain ⟨d, hd, -⟩ := mem_run_join_cons he
  rw [h c hc] at hd
  cases hd

lemma fails_word {w x : List Char} (h : Text.clash w x = true) : (word w).Fails x := by
  intro c hc
  rw [List.eq_nil_iff_forall_not_mem]
  intro d hd
  obtain ⟨y, hy, hw⟩ := takes_word w c d hd
  rw [← hc, hy, Text.not_clash_of_foldsTo _ hw] at h
  cases h

lemma reads_word {w x : List Char} (h : Text.foldsTo w x = true) :
    Reads before (word w) [⟨none, x⟩] after := by
  induction w generalizing before x with
  | nil =>
    rw [Text.eq_nil_of_foldsTo h]
    intro spans
    simp [word, join, run, recordAll]
  | cons a w ih =>
    obtain ⟨d, r, rfl, hd, hr⟩ := Text.foldsTo_cons_left h
    exact Reads.fuse (Reads.join (reads_chars hd) (ih hr))

end

end BracketQuery.Pattern
