import FeatureFlags.Proofs.Number.Value

/-! NaN is neither below nor above any double, so a three-way comparison cannot tell it from an equal one. -/

set_option autoImplicit false

namespace FeatureFlags

namespace Position

theorem le_refl (a : Position) : a.le a := by simp [le, lt]

theorem le_trans {a b c : Position} (first : a.le b) (second : b.le c) : a.le c := by
  simp only [le, lt, Bool.not_eq_true', Bool.or_eq_false_iff, Bool.and_eq_false_iff, decide_eq_false_iff_not] at *
  omega

theorem lt_of_lt_of_le {a b c : Position} (first : a.lt b) (second : b.le c) : a.lt c := by
  simp only [le, lt, Bool.not_eq_true', Bool.or_eq_true, Bool.or_eq_false_iff, Bool.and_eq_true, Bool.and_eq_false_iff,
    decide_eq_true_eq, decide_eq_false_iff_not] at *
  omega

theorem lt_asymm {a b : Position} (below : a.lt b) : b.lt a = false := by
  simp only [lt, Bool.or_eq_true, Bool.or_eq_false_iff, Bool.and_eq_true, Bool.and_eq_false_iff, decide_eq_true_eq,
    decide_eq_false_iff_not] at *
  omega

theorem lt_self (a : Position) : a.lt a = false := by simp [lt]

theorem eq_of_not_lt {a b : Position} (first : a.lt b = false) (second : b.lt a = false) : a = b := by
  obtain ⟨side, units⟩ := a
  obtain ⟨otherSide, otherUnits⟩ := b
  simp only [lt, Bool.or_eq_false_iff, Bool.and_eq_false_iff, decide_eq_false_iff_not] at first second
  rw [Position.mk.injEq]
  omega

end Position

namespace Double

theorem le_iff (a b : Double) : a.le b ↔ ∃ x y, a.position? = some x ∧ b.position? = some y ∧ x.le y := by
  rw [le.eq_def]
  cases a.position? <;> cases b.position? <;> simp

theorem lt_iff (a b : Double) : a.lt b ↔ ∃ x y, a.position? = some x ∧ b.position? = some y ∧ x.lt y := by
  rw [lt.eq_def]
  cases a.position? <;> cases b.position? <;> simp

theorem le_trans {a b c : Double} (first : a.le b) (second : b.le c) : a.le c := by
  obtain ⟨x, y, left, middle, below⟩ := (le_iff a b).mp first
  obtain ⟨_, z, same, right, above⟩ := (le_iff b c).mp second
  cases middle.symm.trans same
  exact (le_iff a c).mpr ⟨x, z, left, right, Position.le_trans below above⟩

theorem not_lt_of_le {a b : Double} (below : a.le b) : b.lt a = false := by
  obtain ⟨x, y, left, right, ordered⟩ := (le_iff a b).mp below
  rw [Position.le, Bool.not_eq_true'] at ordered
  simp only [lt, left, right, ordered]

theorem position_of_number {a : Double} (number : a ≠ .nan) : ∃ place, a.position? = some place := by
  cases a with
  | nan => exact absurd rfl number
  | infinite negative => exact ⟨_, rfl⟩
  | finite negative magnitude => exact ⟨_, rfl⟩

theorem le_eq_not_lt {a b : Double} (number : a ≠ .nan) (other : b ≠ .nan) : a.le b = !b.lt a := by
  obtain ⟨x, left⟩ := position_of_number number
  obtain ⟨y, right⟩ := position_of_number other
  simp only [le, lt, left, right, Position.le]

theorem lt_asymm {a b : Double} (below : a.lt b) : b.lt a = false := by
  obtain ⟨x, y, left, right, less⟩ := (lt_iff a b).mp below
  simp only [lt, left, right, Position.lt_asymm less]

theorem lt_self (a : Double) : a.lt a = false := by
  simp only [lt]
  cases a.position? with
  | none => rfl
  | some x => exact x.lt_self

theorem same_comm (a b : Double) : a.same b = b.same a := by
  rw [same, same]
  cases a.position? with
  | none => cases b.position? <;> rfl
  | some x =>
      cases b.position? with
      | none => rfl
      | some y => exact Bool.beq_comm

theorem position_of_same {a b : Double} (same : a.same b) : a.position? = b.position? := by
  rw [Double.same] at same
  split at same
  · rename_i x y left right
    rw [left, right, beq_iff_eq.mp same]
  · cases same

theorem same_iff {a b : Double} (number : a ≠ .nan) (other : b ≠ .nan) :
    a.same b ↔ a.lt b = false ∧ b.lt a = false := by
  obtain ⟨x, left⟩ := position_of_number number
  obtain ⟨y, right⟩ := position_of_number other
  simp only [same, lt, left, right, beq_iff_eq]
  constructor
  · rintro rfl
    exact ⟨x.lt_self, x.lt_self⟩
  · rintro ⟨first, second⟩
    exact Position.eq_of_not_lt first second

theorem not_lt_unordered {a b : Double} (unordered : a = .nan ∨ b = .nan) : a.lt b = false := by
  rw [Bool.eq_false_iff]
  intro below
  obtain ⟨x, y, left, right, _⟩ := (lt_iff a b).mp below
  rcases unordered with rfl | rfl
  · cases left
  · cases right

theorem order_swap (a b : Double) : b.order a = (a.order b).swap := by
  rw [order, order]
  by_cases below : a.lt b
  · simp [below, lt_asymm below]
  · by_cases above : b.lt a <;> simp [below, above]

theorem order_self (a : Double) : a.order a = .eq := by simp [order, lt_self]

theorem order_of_same {a b : Double} (same : a.same b) : a.order b = .eq := by
  rw [order_congr (position_of_same same) rfl, order_self]

theorem order_unordered {a b : Double} (unordered : a = .nan ∨ b = .nan) : a.order b = .eq := by
  simp [order, not_lt_unordered unordered, not_lt_unordered unordered.symm]

theorem order_le_iff {a b : Double} (number : a ≠ .nan) (other : b ≠ .nan) : (a.order b).isLE ↔ a.le b := by
  rw [order, le_eq_not_lt number other]
  by_cases below : a.lt b
  · simp [below, lt_asymm below]
  · by_cases above : b.lt a <;> simp [below, above]

end Double
end FeatureFlags
