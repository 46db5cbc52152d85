import BracketQuery.Proofs.Grammar.Scan

/-! A query in which some characters are escaped is matched as it was before. -/

namespace BracketQuery

namespace Grammar

lemma strip_of_isEscaped {s t : List Char} (h : Percent.IsEscaped s t) (ht : Text.trim s = s)
    (hq : s.head? ≠ some '?') : strip t = t := by
  obtain ⟨hl, hr⟩ := Text.not_isBlank_of_trim ht
  have htrim : Text.trim t = t := by
    apply Text.trim_eq_self
    · intro c hc
      rcases h.head? c hc with hc | rfl
      · exact hl c hc
      · rfl
    · intro c hc
      rcases h.getLast? c hc with hc | hc
      · exact hr c hc
      · exact hc
  refine strip_of_trim htrim fun hc => ?_
  rcases h.head? '?' hc with hc | hc
  · exact hq hc
  · cases hc

/-- A query is matched as it is, whichever of its characters are escaped and with whichever digits. -/
theorem scan_of_isEscaped (g : Grammar) {s t : String} (h : Percent.IsEscaped s.toList t.toList)
    (hp : '%' ∉ s.toList) (ht : Text.trim s.toList = s.toList) (hq : s.toList.head? ≠ some '?') :
    g.scan t = g.scan s ∧ (g.budget ≠ 0 → s ≠ "" → g.scan t = g.matchesIn s.toList) := by
  have hscan : g.scan t = if s.toList.isEmpty || g.budget = 0 then [] else g.matchesIn s.toList := by
    rw [scan, strip_of_isEscaped h ht hq, h.isEmpty_eq, h.decode_eq]
  refine ⟨?_, fun hb hs => ?_⟩
  · rw [hscan, scan, strip_of_trim ht hq, Percent.decode_of_not_mem hp]
  · rw [hscan, if_neg]
    simp [hb, hs]

end Grammar

theorem scan_escapedName : ∃ g, FilterGrammar.ofOptions .standard = .ok g ∧ g.budget ≠ 0 ∧
    Percent.IsEscaped "filter[café]=1".toList "filter%5bcaf%c3%A9]=1".toList ∧
    '%' ∉ "filter[café]=1".toList ∧
    Text.trim "filter[café]=1".toList = "filter[café]=1".toList ∧
    "filter[café]=1".toList.head? ≠ some '?' ∧
    g.scan "filter%5bcaf%c3%A9]=1" = g.scan "filter[café]=1" ∧
    g.scan "filter%5bcaf%c3%A9]=1" = g.matchesIn "filter[café]=1".toList ∧
    g.scan "filter[café]=1" = [⟨[("value", "1"), ("path", ""), ("memberOf", "café")]⟩] := by
  obtain ⟨g, hg⟩ := FilterPair.exists_ofOptions_standard
  have hv : Options.standard.validate = .ok () :=
    Options.validate_eq_ok.mpr ⟨by decide +kernel, by decide⟩
  have hb : Options.standard.matchBudget ≠ 0 := by decide
  have hbudget : g.budget ≠ 0 := by
    obtain rfl := Grammar.eq_of_ofPattern hg
    exact hb
  have htail : Percent.IsEscaped "]=1".toList "]=1".toList :=
    Percent.IsEscaped.nil.append_left (s := "]=1".toList) (by decide)
  have hletter : Percent.AreEscapes (String.utf8EncodeChar 'é') ['%', 'c', '3', '%', 'A', '9'] :=
    .cons (by decide) (by decide) (.cons (by decide) (by decide) .nil)
  have hbracket : Percent.AreEscapes (String.utf8EncodeChar '[') ['%', '5', 'b'] :=
    .cons (by decide) (by decide) .nil
  have h : Percent.IsEscaped "filter[café]=1".toList "filter%5bcaf%c3%A9]=1".toList :=
    (Percent.IsEscaped.escape hbracket ((Percent.IsEscaped.escape hletter htail).append_left
      (s := "caf".toList) (by decide))).append_left (s := "filter".toList) (by decide)
  have hp : '%' ∉ "filter[café]=1".toList := by decide
  have ht : Text.trim "filter[café]=1".toList = "filter[café]=1".toList := by decide +kernel
  have hq : "filter[café]=1".toList.head? ≠ some '?' := by decide
  have hscan := Grammar.scan_of_isEscaped g h hp ht hq
  refine ⟨g, hg, hbudget, h, hp, ht, hq, hscan.1, hscan.2 hbudget (by decide), ?_⟩
  rw [FilterPair.scan_decoded hv hg hb ht hq hp]
  decide +kernel

end BracketQuery
