import FeatureFlags.Bucket
import FeatureFlags.Proofs.Number.Sum

/-! Every bucket lies in [0, 1): rounding moves a fraction by at most the gap at its value, and a proper
fraction with a denominator of at most 52 bits is further than that from one. -/

set_option autoImplicit false

namespace FeatureFlags

theorem two_pow_lt {exponent other : Nat} (less : exponent < other) : Nat.pow 2 exponent < Nat.pow 2 other :=
  Nat.pow_lt_pow_right (by decide) less

theorem fraction_bits_lt : Nat.pow 2 52 < unitsPerOne := by
  have less : 52 < 1074 := by decide
  delta unitsPerOne
  generalize 1074 = exponent at less
  exact two_pow_lt less

theorem one_lt_limit : unitsPerOne < unitsLimit := by
  have less : 1074 < 2098 := by decide
  delta unitsPerOne unitsLimit
  generalize 1074 = exponent at less
  generalize 2098 = limit at less
  exact two_pow_lt less

namespace Magnitude

theorem gap_fits (units : Nat) (below : units < unitsPerOne) : Nat.pow 2 52 * gap units < unitsPerOne := by
  by_cases wide : 52 ≤ units.log2
  · have nonzero : units ≠ 0 := by
      rintro rfl
      exact absurd wide (by decide)
    have joined : Nat.pow 2 52 * gap units = Nat.pow 2 units.log2 := by
      rw [gap, Nat.pow_eq, Nat.pow_eq, Nat.pow_eq, ← Nat.pow_add, Nat.add_sub_cancel' wide]
    exact joined ▸ Nat.lt_of_le_of_lt (Nat.log2_self_le nonzero) below
  · have narrow : units.log2 - 52 = 0 := by omega
    have single : gap units = 1 := by rw [gap, narrow, Nat.pow_eq, Nat.pow_zero]
    rw [single, Nat.mul_one]
    exact fraction_bits_lt

theorem rounded_units_within (num den : Nat) : roundedUnits num den ≤ num / den + gap (num / den) := by
  rw [roundedUnits]
  generalize gapEq : gap (num / den) = width
  calc
    roundHalfEven num (den * width) * width ≤ (num / (den * width) + 1) * width :=
      Nat.mul_le_mul_right width (round_half_even_le num (den * width))
    _ = num / den / width * width + width := by rw [← Nat.div_div_eq_div_mul, Nat.add_mul, Nat.one_mul]
    _ ≤ num / den + width := Nat.add_le_add_right (Nat.div_mul_le_self _ _) width

theorem rounded_units_proper (num den : Nat) (proper : num < den) (bound : den ≤ Nat.pow 2 52) :
    roundedUnits (num * unitsPerOne) den < unitsPerOne := by
  have positive : 0 < den := Nat.zero_lt_of_lt proper
  have within := rounded_units_within (num * unitsPerOne) den
  have scaled : den * (num * unitsPerOne / den) ≤ num * unitsPerOne := Nat.mul_div_le _ _
  generalize num * unitsPerOne / den = whole at within scaled
  have apart : den * whole + unitsPerOne ≤ den * unitsPerOne :=
    calc
      den * whole + unitsPerOne ≤ num * unitsPerOne + unitsPerOne := Nat.add_le_add_right scaled unitsPerOne
      _ = (num + 1) * unitsPerOne := (Nat.succ_mul num unitsPerOne).symm
      _ ≤ den * unitsPerOne := Nat.mul_le_mul_right unitsPerOne proper
  have below : whole < unitsPerOne := by
    apply Nat.lt_of_mul_lt_mul_left (a := den)
    have one := units_per_one_pos
    omega
  have moved : den * gap whole < unitsPerOne :=
    Nat.lt_of_le_of_lt (Nat.mul_le_mul_right (gap whole) bound) (gap_fits whole below)
  have total : den * (whole + gap whole) < den * unitsPerOne := by
    rw [Nat.mul_add]
    omega
  exact Nat.lt_of_le_of_lt within (Nat.lt_of_mul_lt_mul_left total)

end Magnitude

theorem Double.round_units_below_one (num den : Nat) (below : Magnitude.roundedUnits num den < unitsPerOne) :
    ∃ magnitude, Double.roundUnits false num den = .finite false magnitude ∧ magnitude.units < unitsPerOne := by
  obtain ⟨magnitude, rounded⟩ := Magnitude.round_exists (Nat.lt_trans below one_lt_limit)
  unfold roundUnits
  cases rounds : Magnitude.round? num den with
  | none => cases rounds.symm.trans rounded
  | some magnitude =>
      rw [← Magnitude.round_units rounds] at below
      exact ⟨magnitude, rfl, below⟩

theorem Double.of_ratio_proper (num den : Nat) (proper : num < den) (bound : den ≤ Nat.pow 2 52) :
    ∃ magnitude, Double.ofRatio false num den = .finite false magnitude ∧ magnitude.units < unitsPerOne := by
  rw [ofRatio]
  exact round_units_below_one _ den (Magnitude.rounded_units_proper num den proper bound)

def Double.InUnit (place : Double) : Prop := (Number.int 0).le (.float place) ∧ (Number.float place).lt (.int 1)

theorem Double.in_unit_of_units (magnitude : Magnitude) (below : magnitude.units < unitsPerOne) :
    (Double.finite false magnitude).InUnit := by
  have zero : (Number.int 0).position? = some ⟨0, 0⟩ := by rw [Number.position?, Int.zero_mul]
  have one : (Number.int 1).position? = some ⟨0, unitsPerOne⟩ := by rw [Number.position?, Int.one_mul]
  have here : (Number.float (Double.finite false magnitude)).position? = some ⟨0, magnitude.units⟩ := rfl
  constructor
  · rw [Number.le, zero, here]
    simp [Position.le, Position.lt]
  · rw [Number.lt, here, one]
    have less : (magnitude.units : Int) < unitsPerOne := Int.ofNat_lt.mpr below
    simp only [Position.lt, less, decide_true, Bool.and_true, Bool.or_true]

theorem bucket_one (seed identity : String) :
    ∃ part < 1000, bucket seed identity 1 = some (Double.ofRatio false part 1000) :=
  ⟨_, Nat.mod_lt _ (by decide), rfl⟩

theorem bucket_two (seed identity : String) :
    ∃ part < 10000, bucket seed identity 2 = some (Double.ofRatio false part 10000) :=
  ⟨_, Nat.mod_lt _ (by decide), rfl⟩

theorem bucket_version {seed identity : String} {version : Int} {place : Double}
    (held : bucket seed identity version = some place) : version = 1 ∨ version = 2 := by
  unfold bucket at held
  split at held
  · exact .inr ‹_›
  · split at held
    · exact .inl ‹_›
    · cases held

theorem bucket_in_unit {seed identity : String} {version : Int} {place : Double}
    (held : bucket seed identity version = some place) : place.InUnit := by
  have parts : ∃ part den, part < den ∧ den ≤ Nat.pow 2 52 ∧ place = Double.ofRatio false part den := by
    rcases bucket_version held with rfl | rfl
    · obtain ⟨part, below, same⟩ := bucket_one seed identity
      exact ⟨part, 1000, below, by decide, Option.some.inj (held.symm.trans same)⟩
    · obtain ⟨part, below, same⟩ := bucket_two seed identity
      exact ⟨part, 10000, below, by decide, Option.some.inj (held.symm.trans same)⟩
  obtain ⟨part, den, proper, bound, fraction⟩ := parts
  obtain ⟨magnitude, same, below⟩ := Double.of_ratio_proper part den proper bound
  rw [fraction, same]
  exact Double.in_unit_of_units magnitude below

end FeatureFlags
