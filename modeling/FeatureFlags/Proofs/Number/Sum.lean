import FeatureFlags.Proofs.Number.Order
import Mathlib.Data.Nat.Log

/-! Rounding keeps a value on its side of every double, so a clock that is advanced by a number of seconds
that is not negative does not move back, and a time before a rounded sum is before the exact one. -/

set_option autoImplicit false

namespace FeatureFlags

theorem floor_le_round (num den : Nat) : num / den ≤ roundHalfEven num den := by
  simp only [roundHalfEven]
  split
  · exact Nat.le_refl _
  · split <;> omega

theorem multiple_le_round (num den multiple : Nat) (positive : 0 < den) (divides : den ∣ multiple)
    (below : multiple ≤ num) : multiple ≤ roundHalfEven num den * den := by
  obtain ⟨count, rfl⟩ := divides
  have counted : count ≤ num / den := (Nat.le_div_iff_mul_le positive).mpr (Nat.mul_comm den count ▸ below)
  rw [Nat.mul_comm den count]
  exact Nat.mul_le_mul_right den (Nat.le_trans counted (floor_le_round num den))

theorem round_le_multiple (num den multiple : Nat) (positive : 0 < den) (divides : den ∣ multiple)
    (above : num ≤ multiple) : roundHalfEven num den * den ≤ multiple := by
  obtain ⟨count, rfl⟩ := divides
  by_cases reached : num = den * count
  · subst reached
    rw [round_half_even_dvd _ _ positive (Nat.dvd_mul_right den count), Nat.mul_div_cancel_left count positive]
    exact Nat.le_of_eq (Nat.mul_comm count den)
  · have under : num / den < count := by
      rw [Nat.div_lt_iff_lt_mul positive, Nat.mul_comm]
      exact Nat.lt_of_le_of_ne above reached
    have rounded : roundHalfEven num den ≤ count := Nat.le_trans (round_half_even_le num den) under
    rw [Nat.mul_comm den count]
    exact Nat.mul_le_mul_right den rounded

theorem log2_mono {units others : Nat} (below : units ≤ others) : units.log2 ≤ others.log2 := by
  rw [Nat.log2_eq_log_two, Nat.log2_eq_log_two]
  exact Nat.log_mono_right below

namespace Magnitude

theorem gap_pos (units : Nat) : 0 < gap units := two_pow_pos _

theorem gap_dvd_gap {units others : Nat} (below : units ≤ others) : gap units ∣ gap others := by
  have smaller := log2_mono below
  exact Nat.pow_dvd_pow 2 (by omega)

theorem rounded_units_le (magnitude : Magnitude) (units : Nat) (below : units ≤ magnitude.units) :
    roundedUnits units 1 ≤ magnitude.units := by
  rw [roundedUnits, Nat.div_one, Nat.one_mul]
  exact round_le_multiple _ _ _ (gap_pos units) (Nat.dvd_trans (gap_dvd_gap below) magnitude.representable.2) below

-- Where the gap is wider above than at the magnitude, a power of two stands between the two.
theorem le_rounded_units (magnitude : Magnitude) (units : Nat) (above : magnitude.units ≤ units) :
    magnitude.units ≤ roundedUnits units 1 := by
  rw [roundedUnits, Nat.div_one, Nat.one_mul]
  by_cases level : magnitude.units.log2 = units.log2
  · have divides : gap units ∣ magnitude.units := by
      rw [gap, ← level]
      exact magnitude.representable.2
    exact multiple_le_round _ _ _ (gap_pos units) divides above
  · have lower : magnitude.units.log2 < units.log2 := Nat.lt_of_le_of_ne (log2_mono above) level
    have nonzero : units ≠ 0 := by
      rintro rfl
      exact absurd lower (Nat.not_lt_zero _)
    have reached : Nat.pow 2 units.log2 ≤ units := Nat.log2_self_le nonzero
    have divides : gap units ∣ Nat.pow 2 units.log2 := Nat.pow_dvd_pow 2 (Nat.sub_le _ _)
    have under : magnitude.units < Nat.pow 2 units.log2 :=
      Nat.lt_of_lt_of_le Nat.lt_log2_self (Nat.pow_le_pow_right (by decide) lower)
    exact Nat.le_trans (Nat.le_of_lt under) (multiple_le_round _ _ _ (gap_pos units) divides reached)

theorem round_units {num den : Nat} {magnitude : Magnitude} (rounds : round? num den = some magnitude) :
    magnitude.units = roundedUnits num den := by
  rw [round?] at rounds
  split at rounds
  · cases rounds
    rfl
  · cases rounds

theorem round_exists {num den : Nat} (bound : roundedUnits num den < unitsLimit) :
    ∃ magnitude, round? num den = some magnitude := by
  rw [round?, dif_pos bound]
  exact ⟨_, rfl⟩

end Magnitude

namespace Double

inductive IsTime : Double → Prop where
  | infinite : IsTime (.infinite false)
  | finite (negative : Bool) (magnitude : Magnitude) : IsTime (.finite negative magnitude)

theorem IsTime.not_nan {time : Double} (isTime : time.IsTime) : time ≠ .nan := by
  rintro rfl
  cases isTime

theorem time_position {time : Double} (isTime : time.IsTime) : ∃ position, time.position? = some position :=
  position_of_number isTime.not_nan

theorem time_le_refl {time : Double} (isTime : time.IsTime) : time.le time := by
  obtain ⟨position, held⟩ := time_position isTime
  exact (le_iff time time).mpr ⟨position, position, held, held, position.le_refl⟩

theorem time_le_eq_not_lt {time other : Double} (isTime : time.IsTime) (otherTime : other.IsTime) :
    time.le other = !other.lt time := le_eq_not_lt isTime.not_nan otherTime.not_nan

theorem finite_le_iff (negative other : Bool) (magnitude bound : Magnitude) :
    (Double.finite negative magnitude).le (.finite other bound) ↔
      signed negative magnitude.units ≤ signed other bound.units := by
  simp [le, position?, Position.le, Position.lt]

theorem finite_le_infinite (negative : Bool) (magnitude : Magnitude) :
    (Double.finite negative magnitude).le (.infinite false) := by
  simp [le, position?, Position.le, Position.lt]

theorem signed_nonneg_of_le {negative : Bool} {magnitude : Magnitude} (forward : zero.le (.finite negative magnitude)) :
    0 ≤ signed negative magnitude.units := (finite_le_iff _ _ _ _).mp forward

theorem signed_below {negative : Bool} {units : Nat} {total : Int} (above : signed negative units ≤ total)
    (below : total < 0) : negative = true ∧ total.natAbs ≤ units := by
  cases negative with
  | false =>
      simp only [signed, Bool.false_eq_true, if_false] at above
      omega
  | true =>
      simp only [signed, if_true] at above
      exact ⟨rfl, by omega⟩

theorem round_units_above (negative : Bool) (magnitude : Magnitude) (total : Int)
    (above : signed negative magnitude.units ≤ total) :
    (roundUnits (decide (total < 0)) total.natAbs 1).IsTime ∧
      (Double.finite negative magnitude).le (roundUnits (decide (total < 0)) total.natAbs 1) := by
  unfold roundUnits
  cases rounds : Magnitude.round? total.natAbs 1 with
  | some rounded =>
      refine ⟨.finite _ _, (finite_le_iff _ _ _ _).mpr ?_⟩
      rw [Magnitude.round_units rounds]
      by_cases below : total < 0
      · obtain ⟨rfl, within⟩ := signed_below above below
        have lower := magnitude.rounded_units_le total.natAbs within
        simp only [below, decide_true, signed, if_true]
        omega
      · simp only [below, decide_false, signed, Bool.false_eq_true, if_false] at above ⊢
        cases negative with
        | true =>
            simp only [if_true]
            omega
        | false =>
            simp only [Bool.false_eq_true, if_false] at above ⊢
            have upper := magnitude.le_rounded_units total.natAbs (by omega)
            omega
  | none =>
      by_cases below : total < 0
      · have lower := magnitude.rounded_units_le total.natAbs (signed_below above below).2
        obtain ⟨rounded, found⟩ := Magnitude.round_exists (Nat.lt_of_le_of_lt lower magnitude.representable.1)
        cases rounds.symm.trans found
      · simp only [below, decide_false]
        exact ⟨.infinite, finite_le_infinite negative magnitude⟩

theorem round_units_is_time (num den : Nat) : (roundUnits false num den).IsTime := by
  unfold roundUnits
  cases Magnitude.round? num den with
  | some magnitude => exact .finite false magnitude
  | none => exact .infinite

theorem time_add {now seconds : Double} (isTime : now.IsTime) (forward : zero.le seconds) :
    (now.add seconds).IsTime ∧ now.le (now.add seconds) := by
  cases seconds with
  | nan => cases forward
  | infinite negative =>
      cases negative with
      | true => cases forward
      | false =>
          cases isTime with
          | infinite => exact ⟨.infinite, time_le_refl .infinite⟩
          | finite sign magnitude => exact ⟨.infinite, finite_le_infinite sign magnitude⟩
  | finite negative magnitude =>
      have nonneg := signed_nonneg_of_le forward
      cases isTime with
      | infinite => exact ⟨.infinite, time_le_refl .infinite⟩
      | finite sign clock =>
          have above : signed sign clock.units ≤ signed sign clock.units + signed negative magnitude.units := by omega
          rw [add]
          generalize signed sign clock.units + signed negative magnitude.units = total at above
          by_cases none : total = 0
          · subst none
            refine ⟨.finite _ _, (finite_le_iff _ _ _ _).mpr ?_⟩
            cases sign && negative <;> exact above
          · simp only [if_neg none]
            exact round_units_above sign clock total above

theorem round_units_below (negative : Bool) (magnitude : Magnitude) (total : Int)
    (below : total ≤ signed negative magnitude.units) :
    (roundUnits (decide (total < 0)) total.natAbs 1).le (.finite negative magnitude) := by
  unfold roundUnits
  cases rounds : Magnitude.round? total.natAbs 1 with
  | some rounded =>
      refine (finite_le_iff _ _ _ _).mpr ?_
      rw [Magnitude.round_units rounds]
      by_cases under : total < 0
      · simp only [under, decide_true, signed, if_true]
        cases negative with
        | false =>
            simp only [Bool.false_eq_true, if_false]
            omega
        | true =>
            simp only [signed, if_true] at below ⊢
            have upper := magnitude.le_rounded_units total.natAbs (by omega)
            omega
      · simp only [under, decide_false, signed, Bool.false_eq_true, if_false] at below ⊢
        cases negative with
        | false =>
            simp only [Bool.false_eq_true, if_false] at below ⊢
            have lower := magnitude.rounded_units_le total.natAbs (by omega)
            omega
        | true =>
            simp only [if_true] at below ⊢
            have lower := magnitude.rounded_units_le total.natAbs (by omega)
            omega
  | none =>
      by_cases under : total < 0
      · simp [under, le, position?, Position.le, Position.lt]
      · have within : total.natAbs ≤ magnitude.units := by
          simp only [signed] at below
          split at below <;> omega
        have bound := Nat.lt_of_le_of_lt (magnitude.rounded_units_le total.natAbs within) magnitude.representable.1
        obtain ⟨rounded, found⟩ := Magnitude.round_exists bound
        cases rounds.symm.trans found

theorem time_le_infinite {time : Double} (isTime : time.IsTime) : time.le (.infinite false) := by
  cases isTime with
  | infinite => exact time_le_refl .infinite
  | finite negative magnitude => exact finite_le_infinite negative magnitude

inductive Within : Double → Double → Double → Prop where
  | endless (negative other : Bool) (since now : Magnitude) :
      Within (.finite negative since) (.finite other now) (.infinite false)
  | finite (negative other sign : Bool) (since now span : Magnitude)
      (less : signed other now.units - signed negative since.units < signed sign span.units) :
      Within (.finite negative since) (.finite other now) (.finite sign span)

instance : (since now span : Double) → Decidable (Within since now span)
  | .finite negative since, .finite other now, .infinite false => .isTrue (.endless negative other since now)
  | .finite negative since, .finite other now, .finite sign span =>
      decidable_of_iff (signed other now.units - signed negative since.units < signed sign span.units)
        ⟨.finite negative other sign since now span, fun | .finite _ _ _ _ _ _ less => less⟩
  | .nan, _, _ | .infinite _, _, _ | .finite _ _, .nan, _ | .finite _ _, .infinite _, _ | .finite _ _, .finite _ _, .nan
  | .finite _ _, .finite _ _, .infinite true => .isFalse nofun

theorem Within.mono {since now span longer : Double} (within : Within since now span) (reaches : span.le longer) :
    Within since now longer := by
  cases within with
  | endless negative other since now =>
      cases longer with
      | nan => cases reaches
      | infinite down =>
          cases down with
          | false => exact .endless negative other since now
          | true => cases reaches
      | finite sign magnitude => simp [le, position?, Position.le, Position.lt] at reaches
  | finite negative other sign since now span less =>
      cases longer with
      | nan => cases reaches
      | infinite down =>
          cases down with
          | false => exact .endless negative other since now
          | true => simp [le, position?, Position.le, Position.lt] at reaches
      | finite longSign magnitude =>
          exact .finite negative other longSign since now magnitude
            (Int.lt_of_lt_of_le less ((finite_le_iff _ _ _ _).mp reaches))

-- Were the span to have passed, the exact sum would not be above now, and rounding would leave it there.
theorem within_of_lt_add {since now span : Double} (isTime : since.IsTime) (later : since.le now) (forward : zero.le span)
    (before : now.lt (since.add span)) : Within since now span := by
  have ends := time_le_infinite (time_add isTime forward).1
  have unending (below : (since.add span).le now) : Within since now span := by
    rw [not_lt_of_le below] at before
    cases before
  cases isTime with
  | infinite => exact unending (le_trans ends later)
  | finite negative since =>
      cases now with
      | nan => cases later
      | infinite down =>
          cases down with
          | false => exact unending ends
          | true => simp [le, position?, Position.le, Position.lt] at later
      | finite other now =>
          cases span with
          | nan => cases forward
          | infinite down =>
              cases down with
              | false => exact .endless negative other since now
              | true => cases forward
          | finite sign span =>
              by_cases less : signed other now.units - signed negative since.units < signed sign span.units
              · exact .finite negative other sign since now span less
              · refine unending ?_
                have below : signed negative since.units + signed sign span.units ≤ signed other now.units := by omega
                rw [add]
                generalize signed negative since.units + signed sign span.units = total at below
                by_cases none : total = 0
                · subst none
                  refine (finite_le_iff _ _ _ _).mpr ?_
                  cases negative && sign <;> exact below
                · simp only [if_neg none]
                  exact round_units_below other now total below

end Double

theorem Number.double_nonneg (number : Number) (double : Double) (positive : (Number.int 0).lt number)
    (held : number.toDouble? = some double) : Double.zero.le double := by
  cases number with
  | float value =>
      obtain rfl := Option.some.inj held
      cases placed : value.position? with
      | none => simp only [lt, position?, placed, Bool.false_eq_true] at positive
      | some position =>
          simp only [lt, position?, placed, Int.zero_mul] at positive
          refine (Double.le_iff _ _).mpr ⟨⟨0, 0⟩, position, rfl, placed, ?_⟩
          simp only [Position.le, Position.lt, Bool.not_eq_true', Bool.or_eq_true, Bool.and_eq_true, decide_eq_true_eq,
            Bool.or_eq_false_iff, Bool.and_eq_false_iff, decide_eq_false_iff_not] at positive ⊢
          omega
  | int value =>
      rw [toDouble?, Double.ofInt?] at held
      obtain ⟨magnitude, _, rfl⟩ := Option.map_eq_some_iff.mp held
      have above : 0 < value := by
        simp only [lt, position?, Position.lt, Int.zero_mul, Int.lt_irrefl, decide_false, Bool.false_or, decide_true,
          Bool.true_and, decide_eq_true_eq] at positive
        exact Int.pos_of_mul_pos_left positive (Int.natCast_pos.mpr units_per_one_pos)
      have unsigned : decide (value < 0) = false := decide_eq_false (by omega)
      rw [unsigned]
      exact (Double.finite_le_iff _ _ _ _).mpr (Int.natCast_nonneg magnitude.units)

end FeatureFlags
