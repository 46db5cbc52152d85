import BracketQuery.Grammar.Filter
import BracketQuery.Proofs.Pattern.Failure

/-! Bracketed parts of a pair: where the grammar reads one, and where it leaves one out. -/

namespace BracketQuery.FilterGrammar

open Pattern

def isToken (ws : List String) (x : List Char) : Bool := ws.any fun w => Text.foldsTo w.toList x

def isMarked (ws : List String) : List Char → Bool
  | '$' :: x => isToken ws x
  | _ => false

lemma isToken_of_mem {ws : List String} {w : String} (h : w ∈ ws) : isToken ws w.toList = true :=
  List.any_eq_true.mpr ⟨w, h, Text.foldsTo_self _⟩

lemma isMarked_of_ne {ws : List String} {c : Char} {x : List Char} (h : c ≠ '$') :
    isMarked ws (c :: x) = false := by
  unfold isMarked
  split
  · next he => exact absurd (List.cons.inj he).1 h
  · rfl

def enclosed (x : List Char) : List Char := '[' :: x ++ [']']

/-- A bracketed part, with what comes before its text between the brackets; it may be missing. -/
def part (mark : List Char) (name : String) (x : Option String) : List Piece :=
  match x with
  | none => []
  | some s => [⟨none, '[' :: mark⟩, ⟨some name, s.toList⟩, ⟨none, [']']⟩]

def contentOf (mark : List Char) (x : Option String) : List (List Char) :=
  (x.map fun s => mark ++ s.toList).toList

lemma textOf_part (mark : List Char) (name : String) (x : Option String) :
    textOf (part mark name x) = (contentOf mark x).flatMap enclosed := by
  cases x <;> simp [part, contentOf, enclosed]

def restText (contents : List (List Char)) (after : List Char) : List Char :=
  contents.flatMap enclosed ++ '=' :: after

lemma ne_of_toNat_ne {c d : Char} (h : c ≠ d) : c.toNat ≠ d.toNat := fun he => h (Char.toNat_inj.mp he)

lemma toNat_le_top (c : Char) : c.toNat ≤ CharSet.top := by
  have h : c.toNat < 0xD800 ∨ 0xDFFF < c.toNat ∧ c.toNat < 0x110000 := c.valid
  simp only [CharSet.top]
  omega

lemma contains_segmentChars {c : Char} (hl : c ≠ '[') (hr : c ≠ ']') (hd : c ≠ '$') :
    segmentChars.contains c = true := by
  have htop := toNat_le_top c
  have hl : c.toNat ≠ 0x5B := ne_of_toNat_ne hl
  have hr : c.toNat ≠ 0x5D := ne_of_toNat_ne hr
  have hd : c.toNat ≠ 0x24 := ne_of_toNat_ne hd
  simp only [segmentChars, CharSet.contains, List.any_cons, List.any_nil, Bool.or_false,
    Bool.or_eq_true, Bool.and_eq_true, decide_eq_true_eq]
  omega

lemma contains_valueChars {c : Char} (h : c ≠ '&') : valueChars.contains c = true := by
  have htop := toNat_le_top c
  have h : c.toNat ≠ 0x26 := ne_of_toNat_ne h
  simp only [valueChars, CharSet.contains, List.any_cons, List.any_nil, Bool.or_false,
    Bool.or_eq_true, Bool.and_eq_true, decide_eq_true_eq]
  omega

lemma not_mem_of_segmentChars {x : List Char} (h : ∀ c ∈ x, segmentChars.contains c = true) :
    ']' ∉ x := by
  intro hm
  have := h _ hm
  revert this
  decide

lemma eq_of_append_cons {x y r s : List Char} {d : Char} (hx : d ∉ x) (hy : d ∉ y)
    (h : x ++ d :: r = y ++ d :: s) : x = y := by
  induction x generalizing y with
  | nil =>
    cases y with
    | nil => rfl
    | cons e y =>
      cases h
      exact absurd List.mem_cons_self hy
  | cons e x ih =>
    cases y with
    | nil =>
      cases h
      exact absurd List.mem_cons_self hx
    | cons f y =>
      simp only [List.cons_append, List.cons.injEq] at h
      simp only [List.mem_cons, not_or] at hx hy
      rw [h.1, ih hx.2 hy.2 h.2]

section

variable {p : Pattern} {r : List Char → Prop} {before after : List Char}

lemma takes_enclosed {mark : List Char} (hm : ∀ x, Text.foldsTo mark x = true → x = mark)
    (hp : Takes p r) : Takes (join [word ('[' :: mark), p, word [']']])
      fun x => ∃ y, x = enclosed (mark ++ y) ∧ r y := by
  have hfold : (CharSet.single '[').foldCase = .single '[' ∧
      (CharSet.single ']').foldCase = .single ']' := by decide
  have hlast : Takes (join [word [']']]) _ := takes_word [']']
  intro c e he
  obtain ⟨_, hx, a, _, rfl, ha, y, z, rfl, hy, hz⟩ :=
    (takes_word ('[' :: mark)).join_cons (hp.join_cons hlast) c e he
  obtain ⟨b, bs, rfl, hb, hbs⟩ := Text.foldsTo_cons_left ha
  obtain ⟨d, ds, rfl, hd, hds⟩ := Text.foldsTo_cons_left hz
  obtain rfl := hm bs hbs
  obtain rfl := Text.eq_nil_of_foldsTo hds
  obtain rfl : b = '[' := by simpa [hfold.1] using hb
  obtain rfl : d = ']' := by simpa [hfold.2] using hd
  exact ⟨_, hx, y, by simp [enclosed], hy⟩

lemma eq_nil_of_foldsTo_nil (x : List Char) (h : Text.foldsTo [] x = true) : x = [] :=
  Text.eq_nil_of_foldsTo h

lemma eq_single_of_foldsTo {d : Char} (hd : (CharSet.single d).foldCase = .single d) (x : List Char)
    (h : Text.foldsTo [d] x = true) : x = [d] := by
  obtain ⟨c, s, rfl, hc, hs⟩ := Text.foldsTo_cons_left h
  rw [hd] at hc
  obtain rfl := Text.eq_nil_of_foldsTo hs
  simpa using hc

lemma eq_dollar_of_foldsTo (x : List Char) (h : Text.foldsTo ['$'] x = true) : x = ['$'] :=
  eq_single_of_foldsTo (by decide) x h

lemma fails_enclosed {mark x : List Char} (hm : ∀ x, Text.foldsTo mark x = true → x = mark)
    (hp : Takes p r) (hr : ∀ y, r y → ']' ∉ mark ++ y) (hx : ']' ∉ x)
    (h : ∀ y, x = mark ++ y → ¬ r y) :
    (join [word ('[' :: mark), p, word [']']]).Fails (enclosed x ++ after) := by
  intro c hc
  rw [List.eq_nil_iff_forall_not_mem]
  intro e he
  obtain ⟨_, hy, y, rfl, hry⟩ := takes_enclosed hm hp c e he
  rw [hc, enclosed, enclosed] at hy
  simp only [List.cons_append, List.append_assoc, List.nil_append, List.cons.injEq] at hy
  rw [← List.append_assoc] at hy
  exact h y (eq_of_append_cons hx (hr y hry) hy.2) hry

lemma fails_enclosed_restText {mark : List Char} {contents : List (List Char)}
    (hm : ∀ x, Text.foldsTo mark x = true → x = mark) (hp : Takes p r)
    (hr : ∀ y, r y → ']' ∉ mark ++ y)
    (hx : ∀ x ∈ contents.head?, ']' ∉ x ∧ ∀ y, x = mark ++ y → ¬ r y) :
    (join [word ('[' :: mark), p, word [']']]).Fails (restText contents after) := by
  cases contents with
  | nil =>
    have hclash : Text.clash ('[' :: mark) ['='] = true := by
      simp [Text.clash, show (CharSet.single '[').foldCase.contains '=' = false by decide]
    exact fails_join_cons (fails_word (Text.clash_append after hclash))
  | cons x xs =>
    obtain ⟨hb, h⟩ := hx x rfl
    rw [restText, List.flatMap_cons, List.append_assoc]
    exact fails_enclosed hm hp hr hb h

lemma fails_bracketed_restText {contents : List (List Char)} (hp : Takes p r)
    (hr : ∀ y, r y → ']' ∉ y) (hx : ∀ x ∈ contents.head?, ']' ∉ x ∧ ¬ r x) :
    (bracketed p).Fails (restText contents after) := by
  apply fails_enclosed_restText eq_nil_of_foldsTo_nil hp hr
  intro x hm
  obtain ⟨hb, h⟩ := hx x hm
  refine ⟨hb, ?_⟩
  rintro y rfl
  exact h

lemma reads_anyWord {ws : List String} {w : String} {x : List Char} (hw : w ∈ ws)
    (hx : Text.foldsTo w.toList x = true)
    (h : ∀ v ∈ ws.takeWhile (· != w), Text.clash v.toList (x ++ [']']) = true) :
    Reads before (anyWord ws) [⟨none, x⟩] (']' :: after) := by
  have hself : Reads before (word w.toList) [⟨none, x⟩] (']' :: after) := reads_word hx
  induction ws with
  | nil => cases hw
  | cons v ws ih =>
    by_cases hv : v = w
    · subst hv
      cases ws with
      | nil => exact hself
      | cons u ws => exact hself.either_left
    · rw [List.takeWhile_cons_of_pos (by simpa using hv)] at h
      have hm : w ∈ ws := (List.mem_cons.mp hw).resolve_left (Ne.symm hv)
      have hf := fails_word (Text.clash_append after (h v (by simp)))
      cases ws with
      | nil => cases hm
      | cons u ws =>
        have hr := ih hm fun x hx => h x (by simp [hx])
        exact hr.either_right (by simpa using hf)

lemma reads_enclosed {q : Pattern} {mark x : List Char} (n : String)
    (hq : ∀ b, Reads b q [⟨none, x⟩] (']' :: after)) :
    Reads before (join [word ('[' :: mark), named n q, word [']']])
      [⟨none, '[' :: mark⟩, ⟨some n, x⟩, ⟨none, [']']⟩] after := by
  have hfirst {b a : List Char} (w : List Char) : Reads b (word w) [⟨none, w⟩] a :=
    reads_word (Text.foldsTo_self w)
  have hlast {b : List Char} : Reads b (join [word [']']]) [⟨none, [']']⟩] after := hfirst [']']
  exact (hfirst _).join (((hq _).named n).join hlast)

lemma reads_part {q : Pattern} {mark : List Char} {n : String} {x : Option String}
    (hc : (join [word ('[' :: mark), named n q, word [']']]).charSet? = none)
    (hs : ∀ s ∈ x, ∀ b, Reads b q [⟨none, s.toList⟩] (']' :: after))
    (hf : x = none → (join [word ('[' :: mark), named n q, word [']']]).Fails after) :
    Reads before (optional (join [word ('[' :: mark), named n q, word [']']])) (part mark n x)
      after := by
  cases x with
  | none => exact reads_optional_nil hc (hf rfl)
  | some s => exact (reads_enclosed n (hs s rfl)).optional hc

lemma reads_segment {x : List Char} (hne : x ≠ [])
    (hx : ∀ c ∈ x, segmentChars.contains c = true) :
    Reads before (bracketed (plus (chars segmentChars))) [⟨none, enclosed x⟩] after := by
  have hfirst {b a : List Char} (w : List Char) : Reads b (word w) [⟨none, w⟩] a :=
    reads_word (Text.foldsTo_self w)
  have hlast {b : List Char} : Reads b (join [word [']']]) [⟨none, [']']⟩] after := hfirst [']']
  have hstop : ∀ c ∈ (']' :: after).head?, segmentChars.contains c = false := by
    rintro c ⟨⟩
    decide
  exact ((hfirst ['[']).join ((reads_plus_chars hne hx hstop).join hlast)).fuse.fuse

lemma reads_path {xs contents : List (List Char)}
    (hx : ∀ x ∈ xs, x ≠ [] ∧ ∀ c ∈ x, segmentChars.contains c = true)
    (hc : ∀ x ∈ contents.head?, ']' ∉ x ∧ ∃ c ∈ x, segmentChars.contains c = false) :
    Reads before (named path (star (bracketed (plus (chars segmentChars)))))
      [⟨some path, xs.flatMap enclosed⟩] (restText contents after) := by
  apply Reads.named
  apply reads_star rfl (by decide)
  · intro y hy
    obtain ⟨x, hm, rfl⟩ := List.mem_map.mp hy
    obtain ⟨hne, hs⟩ := hx x hm
    exact ⟨by simp [enclosed], fun b a => reads_segment hne hs⟩
  · apply fails_bracketed_restText (takes_plus_chars segmentChars)
      fun y hy => not_mem_of_segmentChars hy.2
    intro x hm
    obtain ⟨hb, c, hcx, hfalse⟩ := hc x hm
    refine ⟨hb, fun hall => ?_⟩
    rw [hall.2 c hcx] at hfalse
    cases hfalse

end

end BracketQuery.FilterGrammar
