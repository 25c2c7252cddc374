import FeatureFlags.Number

/-! An integer and a double that lie at the same place of the number line have the same double and the same
plain text. The two zeros have one value, and NaN has a value of its own. -/

set_option autoImplicit false

namespace FeatureFlags

theorem round_half_even_dvd (num den : Nat) (positive : 0 < den) (exact : den ∣ num) :
    roundHalfEven num den = num / den := by
  have whole : num % den = 0 := Nat.mod_eq_zero_of_dvd exact
  simp [roundHalfEven, whole, positive]

theorem Magnitude.eq_of_units {a b : Magnitude} (units : a.units = b.units) : a = b := by
  obtain ⟨units, _⟩ := a
  obtain ⟨others, _⟩ := b
  subst units
  rfl

theorem Magnitude.rounded_units_exact (magnitude : Magnitude) :
    Magnitude.roundedUnits magnitude.units 1 = magnitude.units := by
  have positive : 0 < Magnitude.gap magnitude.units := two_pow_pos _
  have exact : Magnitude.gap magnitude.units ∣ magnitude.units := magnitude.representable.2
  rw [roundedUnits, Nat.div_one, Nat.one_mul, round_half_even_dvd _ _ positive exact,
    Nat.div_mul_cancel exact]

theorem Magnitude.round_exact (magnitude : Magnitude) :
    Magnitude.round? magnitude.units 1 = some magnitude := by
  have exact := magnitude.rounded_units_exact
  have bound : Magnitude.roundedUnits magnitude.units 1 < unitsLimit := by
    rw [exact]
    exact magnitude.representable.1
  rw [round?, dif_pos bound]
  exact congrArg some (eq_of_units exact)

theorem units_per_one_pos : 0 < unitsPerOne := by
  delta unitsPerOne
  generalize 1074 = exponent
  exact two_pow_pos exponent

theorem signed_eq_iff (negative other : Bool) (units others : Nat) :
    signed negative units = signed other others ↔ units = others ∧ (units = 0 ∨ negative = other) := by
  cases negative <;> cases other <;> simp [signed] <;> omega

theorem signed_int (value : Int) (scale : Nat) :
    signed (decide (value < 0)) (value.natAbs * scale) = value * scale := by
  by_cases negative : value < 0
  · have magnitude : (value.natAbs : Int) = -value := by omega
    simp only [signed, negative, decide_true, if_true, Int.natCast_mul, magnitude, Int.neg_mul, Int.neg_neg]
  · have magnitude : (value.natAbs : Int) = value := by omega
    simp [signed, negative, magnitude]

namespace Double

theorem position_eq (a b : Double) (same : a.position? = b.position?) :
    a = b ∨ ∃ negative other magnitude, a = .finite negative magnitude ∧ b = .finite other magnitude ∧
      magnitude.units = 0 := by
  cases a with
  | nan => cases b <;> simp_all [position?]
  | infinite negative =>
      cases b with
      | nan => simp [position?] at same
      | infinite other => cases negative <;> cases other <;> simp [position?] at same ⊢
      | finite other magnitude => cases negative <;> simp [position?] at same
  | finite negative magnitude =>
      cases b with
      | nan => simp [position?] at same
      | infinite other => cases other <;> simp [position?] at same
      | finite other others =>
          simp only [position?, Option.some.injEq, Position.mk.injEq, true_and] at same
          obtain ⟨units, sign⟩ := (signed_eq_iff _ _ _ _).mp same
          obtain rfl := Magnitude.eq_of_units units
          rcases sign with zero | sign
          · exact .inr ⟨negative, other, magnitude, rfl, rfl, zero⟩
          · exact .inl (by rw [sign])

theorem lt_congr {a b c d : Double} (first : a.position? = b.position?) (second : c.position? = d.position?) :
    a.lt c = b.lt d := by
  rw [lt, lt, first, second]

theorem order_congr {a b c d : Double} (first : a.position? = b.position?) (second : c.position? = d.position?) :
    a.order c = b.order d := by
  rw [order, order, lt_congr first second, lt_congr second first]

theorem same_congr {a b c d : Double} (first : a.position? = b.position?) (second : c.position? = d.position?) :
    a.same c = b.same d := by
  rw [same, same, first, second]

theorem position_int (value : Int) (double : Double)
    (same : double.position? = some ⟨0, value * unitsPerOne⟩) :
    ∃ negative magnitude, double = .finite negative magnitude ∧
      magnitude.units = value.natAbs * unitsPerOne ∧ (value = 0 ∨ negative = decide (value < 0)) := by
  cases double with
  | nan => cases same
  | infinite negative =>
      have side : (if negative then -1 else 1 : Int) = 0 := congrArg Position.side (Option.some.inj same)
      cases negative <;> exact absurd side (by decide)
  | finite negative magnitude =>
      simp only [position?, Option.some.injEq, Position.mk.injEq, true_and] at same
      rw [← signed_int] at same
      obtain ⟨units, sign⟩ := (signed_eq_iff _ _ _ _).mp same
      refine ⟨negative, magnitude, rfl, units, sign.imp_left fun zero => ?_⟩
      have nothing := (Nat.mul_eq_zero.mp (units.symm.trans zero)).resolve_right (Nat.ne_of_gt units_per_one_pos)
      exact Int.natAbs_eq_zero.mp nothing

theorem of_int_exact (value : Int) (magnitude : Magnitude)
    (units : magnitude.units = value.natAbs * unitsPerOne) :
    Double.ofInt? value = some (.finite (decide (value < 0)) magnitude) := by
  rw [ofInt?, ← units, Magnitude.round_exact]
  rfl

theorem of_int_position (value : Int) (double : Double)
    (same : double.position? = some ⟨0, value * unitsPerOne⟩) :
    ∃ nearest, Double.ofInt? value = some nearest ∧ nearest.position? = double.position? := by
  obtain ⟨negative, magnitude, _, units, _⟩ := position_int value double same
  refine ⟨_, of_int_exact value magnitude units, ?_⟩
  rw [same, position?, units, signed_int]

end Double

namespace Number

def SameValue (a b : Number) : Prop := a.position? = b.position?

theorem same_value_int (a b : Int) : SameValue (.int a) (.int b) ↔ a = b := by
  have nonzero : (unitsPerOne : Int) ≠ 0 := Int.ofNat_ne_zero.mpr (Nat.ne_of_gt units_per_one_pos)
  simp only [SameValue, position?, Option.some.injEq, Position.mk.injEq, true_and]
  exact Int.mul_eq_mul_right_iff nonzero

theorem same_congr {a b c d : Number} (first : a.SameValue b) (second : c.SameValue d) :
    a.same c = b.same d := by
  rw [SameValue] at first second
  rw [same, same, first, second]

theorem to_double_same_value (a b : Number) (same : a.SameValue b) :
    a.toDouble?.map Double.position? = b.toDouble?.map Double.position? := by
  cases a with
  | int value =>
      cases b with
      | int other => rw [(same_value_int value other).mp same]
      | float other =>
          obtain ⟨nearest, rounded, position⟩ := Double.of_int_position value other same.symm
          simp [toDouble?, rounded, position]
  | float value =>
      cases b with
      | int other =>
          obtain ⟨nearest, rounded, position⟩ := Double.of_int_position other value same
          simp [toDouble?, rounded, position]
      | float other => simpa [toDouble?, SameValue, position?] using same

theorem int_of_unread (number : Number) (unread : number.toDouble? = none) :
    ∃ value, number = .int value ∧ Double.ofInt? value = none := by
  cases number with
  | int value => exact ⟨value, rfl, unread⟩
  | float value => cases unread

theorem plain_text_whole (value : Int) (double : Double)
    (same : double.position? = some ⟨0, value * unitsPerOne⟩) :
    plainText (.float double) = toString value := by
  obtain ⟨negative, magnitude, rfl, units, sign⟩ := Double.position_int value double same
  have whole : magnitude.units % unitsPerOne = 0 := by rw [units, Nat.mul_mod_left]
  have quotient : magnitude.units / unitsPerOne = value.natAbs := by
    rw [units, Nat.mul_div_cancel _ units_per_one_pos]
  have truncated : signed negative value.natAbs = value := by
    rcases sign with rfl | rfl
    · cases negative <;> rfl
    · simpa using signed_int value 1
  simp [plainText, Double.isInteger, Double.truncate?, whole, quotient, truncated]

theorem plain_text_same_value (a b : Number) (same : a.SameValue b) : a.plainText = b.plainText := by
  cases a with
  | int value =>
      cases b with
      | int other => rw [(same_value_int value other).mp same]
      | float other => exact (plain_text_whole value other same.symm).symm
  | float value =>
      cases b with
      | int other => exact plain_text_whole other value same
      | float other =>
          rcases Double.position_eq value other same with rfl | ⟨negative, sign, magnitude, rfl, rfl, zero⟩
          · rfl
          · have place (sign : Bool) : (Double.finite sign magnitude).position? = some ⟨0, 0 * unitsPerOne⟩ := by
              rw [Double.position?, zero, Int.zero_mul]
              cases sign <;> rfl
            rw [plain_text_whole 0 _ (place negative), plain_text_whole 0 _ (place sign)]

end Number

end FeatureFlags
