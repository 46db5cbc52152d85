import BracketQuery.Proofs.Condition.Trichotomy
import BracketQuery.Proofs.Number.Decimal

/-! An integer property compares with an integer as what both are rounded to, so that integers beyond
`2 ^ 53` may be taken for their neighbours. -/

namespace BracketQuery

def IsWord64 (n : Int) : Prop := -2 ^ 63 ≤ n ∧ n < 2 ^ 64

lemma IsWord64.log2_lt {n : Int} (h : IsWord64 n) : n.natAbs.log2 < 1024 := by
  have hlt : n.natAbs < 2 ^ 64 := by
    obtain ⟨hl, hr⟩ := h
    omega
  rcases eq_or_ne n.natAbs 0 with hn | hn
  · rw [hn]
    decide
  · exact ((Nat.log2_lt hn).mpr hlt).trans (by decide)

namespace Leaf

variable {l : Leaf} {entity : Json.Value} {n m : Int} {v : String}

lemma against?_integer (hp : entity.resolve l.segments = some (.number (.integer n)))
    (hn : IsWord64 n) (hm : IsWord64 m) (hv : Text.IsNumeral m v.toList) :
    ∃ r s, Rounds n r ∧ Rounds m s ∧ l.against? entity v = some (compare r s) := by
  obtain ⟨r, s, hr, hs, horder⟩ := Scalar.order?_integer hn.log2_lt hm.log2_lt hv
  exact ⟨r, s, hr, hs, by rw [against?, hp, Option.bind_some, horder]⟩

lemma holds_of_against? {r s : Int} (h : l.against? entity v = some (compare r s)) :
    ((l.asking .equalTo [v]).holds entity = true ↔ r = s) ∧
    ((l.asking .lessThan [v]).holds entity = true ↔ r < s) ∧
    ((l.asking .greaterThan [v]).holds entity = true ↔ s < r) := by
  rw [holds_single (by decide), holds_single (by decide), holds_single (by decide), h,
    ← Int.compare_eq_eq, ← Int.compare_eq_lt, ← Int.compare_eq_gt]
  simp only [Option.any_some]
  cases compare r s <;> decide

/-- An integer is found equal to, below or above another one exactly if that is so of what they are
rounded to. Equal integers are found equal, those found below or above are so, and all is exact if one
of the two has at most 53 bits. -/
theorem holds_integer (l : Leaf) (entity : Json.Value) (n m : Int) (v : String)
    (hp : entity.resolve l.segments = some (.number (.integer n))) (hn : IsWord64 n)
    (hm : IsWord64 m) (hv : Text.IsNumeral m v.toList) :
    let holds (o : Operator) : Bool := (l.asking o [v]).holds entity
    (∀ o, o ≠ .none → ∃ c, Registry.standard.build (l.asking o [v]) = .ok c) ∧
    (∃ r s, Rounds n r ∧ Rounds m s ∧ (holds .equalTo = true ↔ r = s) ∧
      (holds .lessThan = true ↔ r < s) ∧ (holds .greaterThan = true ↔ s < r)) ∧
    (n = m → holds .equalTo = true) ∧ (holds .lessThan = true → n < m) ∧
    (holds .greaterThan = true → m < n) ∧
    (n.natAbs < 2 ^ 53 ∨ m.natAbs < 2 ^ 53 → (holds .equalTo = true ↔ n = m) ∧
      (holds .lessThan = true ↔ n < m) ∧ (holds .greaterThan = true ↔ m < n)) := by
  intro holds
  obtain ⟨r, s, hr, hs, hat⟩ := against?_integer hp hn hm hv
  obtain ⟨heq, hlt, hgt⟩ := holds_of_against? hat
  refine ⟨fun o ho => ⟨_, Registry.build_standard (l := l.asking o [v]) ho⟩,
    ⟨r, s, hr, hs, heq, hlt, hgt⟩, ?_, fun h => hr.lt_of_lt hs (hlt.mp h),
    fun h => hs.lt_of_lt hr (hgt.mp h), fun hshort => ?_⟩
  · rintro rfl
    exact heq.mpr (hr.unique hs)
  · have hbelow := hr.lt_iff hs hshort
    have habove := hs.lt_iff hr hshort.symm
    have hequal : r = s ↔ n = m := by omega
    exact ⟨heq.trans hequal, hlt.trans hbelow, hgt.trans habove⟩

def onId : Leaf := ⟨"id", some "root", "id", .equalTo, .ofList []⟩

def identified (n : Int) : Json.Value := .object [("id", .number (.integer n))]

theorem holds_integer_short :
    let n : Int := -9007199254740993
    let m : Int := -9007199254740991
    let v := "-9007199254740991"
    let holds (o : Operator) : Bool := (onId.asking o [v]).holds (identified n)
    (identified n).resolve onId.segments = some (.number (.integer n)) ∧
    IsWord64 n ∧ IsWord64 m ∧ Text.IsNumeral m v.toList ∧ m.natAbs < 2 ^ 53 ∧
    (∃ c, Registry.standard.build (onId.asking .lessThan [v]) = .ok c) ∧
    Rounds n (-9007199254740992) ∧ (holds .lessThan = true ↔ n < m) ∧ holds .lessThan = true ∧
    (holds .equalTo = true ↔ n = m) ∧ holds .equalTo = false := by
  intro n m v holds
  have hp : (identified n).resolve onId.segments = some (.number (.integer n)) := rfl
  have hn : IsWord64 n := by constructor <;> decide
  have hm : IsWord64 m := by constructor <;> decide
  have hv : Text.IsNumeral m v.toList := Text.isNumeral_of_text (by decide +kernel)
  have hshort : m.natAbs < 2 ^ 53 := by decide
  obtain ⟨hbuild, -, -, -, -, hexact⟩ := holds_integer onId (identified n) n m v hp hn hm hv
  obtain ⟨hequal, hbelow, -⟩ := hexact (.inr hshort)
  have hround : Rounds n (-9007199254740992) :=
    ⟨1, .inr (by decide), by decide, by decide, -2 ^ 52, by decide, fun _ => by decide⟩
  exact ⟨hp, hn, hm, hv, hshort, hbuild .lessThan nofun, hround, hbelow, by decide +kernel, hequal,
    by decide +kernel⟩

theorem holds_integer_neighbor :
    let n : Int := 9007199254740993
    let m : Int := 9007199254740992
    let v := "9007199254740992"
    let holds (o : Operator) : Bool := (onId.asking o [v]).holds (identified n)
    (identified n).resolve onId.segments = some (.number (.integer n)) ∧
    IsWord64 n ∧ IsWord64 m ∧ Text.IsNumeral m v.toList ∧
    m < n ∧ holds .equalTo = true ∧ holds .greaterThan = false := by
  intro n m v holds
  have hv : Text.IsNumeral m v.toList := Text.isNumeral_of_text (by decide +kernel)
  exact ⟨rfl, by constructor <;> decide, by constructor <;> decide, hv, by decide,
    by decide +kernel, by decide +kernel⟩

end Leaf

end BracketQuery
