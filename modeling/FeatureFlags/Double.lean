/-! Binary64 numbers with their exact values: a finite double is a signed count of units of 2^-1074. Every
double that is not given exactly comes out of one rounding, to nearest with ties to even. -/

set_option autoImplicit false

namespace FeatureFlags

def unitsPerOne : Nat := Nat.pow 2 1074

def unitsLimit : Nat := Nat.pow 2 2098

theorem two_pow_pos (exponent : Nat) : 0 < Nat.pow 2 exponent := Nat.two_pow_pos exponent

theorem units_limit_pos : 0 < unitsLimit := by
  delta unitsLimit
  generalize 2098 = exponent
  exact two_pow_pos exponent

def Representable (units : Nat) : Prop :=
  units < unitsLimit ∧ Nat.pow 2 (units.log2 - 52) ∣ units

structure Magnitude where
  units : Nat
  representable : Representable units
deriving DecidableEq

def roundHalfEven (num den : Nat) : Nat :=
  let quotient := num / den
  let twice := 2 * (num % den)
  if twice < den then quotient
  else if den < twice then quotient + 1
  else quotient + quotient % 2

theorem round_half_even_le (num den : Nat) : roundHalfEven num den ≤ num / den + 1 := by
  simp only [roundHalfEven]
  split
  · omega
  · split <;> omega

theorem gap_dvd (significand shift : Nat) (bound : significand ≤ Nat.pow 2 53) :
    Nat.pow 2 ((significand * Nat.pow 2 shift).log2 - 52) ∣ significand * Nat.pow 2 shift := by
  simp only [Nat.pow_eq] at bound ⊢
  by_cases zero : significand = 0
  · simp [zero]
  by_cases top : significand = Nat.pow 2 53
  · rw [top, Nat.pow_eq, ← Nat.pow_add, Nat.log2_two_pow]
    exact Nat.pow_dvd_pow 2 (by omega)
  · rw [Nat.pow_eq] at top
    have small := Nat.lt_of_le_of_ne bound top
    have nonzero := Nat.mul_ne_zero zero (Nat.ne_of_gt (Nat.two_pow_pos shift))
    have less := (Nat.log2_lt nonzero).mpr
      (Nat.lt_of_lt_of_eq (Nat.mul_lt_mul_of_pos_right small (Nat.two_pow_pos shift))
        (Nat.pow_add 2 53 shift).symm)
    exact Nat.dvd_trans (Nat.pow_dvd_pow 2 (by omega)) (Nat.dvd_mul_left _ _)

namespace Magnitude

-- The gap between neighbouring magnitudes at a value whose whole part is `units`.
def gap (units : Nat) : Nat := Nat.pow 2 (units.log2 - 52)

theorem significand_le (num den : Nat) :
    roundHalfEven num (den * gap (num / den)) ≤ Nat.pow 2 53 := by
  have upper := round_half_even_le num (den * gap (num / den))
  rw [← Nat.div_div_eq_div_mul] at upper
  have quotient : num / den / gap (num / den) < Nat.pow 2 53 := by
    simp only [gap, Nat.pow_eq]
    rw [Nat.div_lt_iff_lt_mul (Nat.two_pow_pos _), ← Nat.pow_add]
    exact Nat.lt_of_lt_of_le Nat.lt_log2_self (Nat.pow_le_pow_right (by decide) (by omega))
  omega

def roundedUnits (num den : Nat) : Nat :=
  roundHalfEven num (den * gap (num / den)) * gap (num / den)

def round? (num den : Nat) : Option Magnitude :=
  if bound : roundedUnits num den < unitsLimit then
    some ⟨roundedUnits num den, bound, gap_dvd _ _ (significand_le num den)⟩
  else none

def zero : Magnitude := ⟨0, units_limit_pos, Nat.dvd_zero _⟩

end Magnitude

inductive Double where
  | nan
  | infinite (negative : Bool)
  | finite (negative : Bool) (magnitude : Magnitude)
deriving DecidableEq

-- A point of the extended number line: `side` is -1 at minus infinity and 1 at infinity.
structure Position where
  side : Int
  units : Int
deriving DecidableEq

namespace Position

def lt (a b : Position) : Bool :=
  decide (a.side < b.side) || (decide (a.side = b.side) && decide (a.units < b.units))

def le (a b : Position) : Bool := !lt b a

end Position

def signed (negative : Bool) (units : Nat) : Int :=
  if negative then -(units : Int) else units

namespace Double

def position? : Double → Option Position
  | .nan => none
  | .infinite negative => some ⟨if negative then -1 else 1, 0⟩
  | .finite negative magnitude => some ⟨0, signed negative magnitude.units⟩

def zero : Double := .finite false .zero

def lt (a b : Double) : Bool :=
  match a.position?, b.position? with
  | some x, some y => x.lt y
  | _, _ => false

def le (a b : Double) : Bool :=
  match a.position?, b.position? with
  | some x, some y => x.le y
  | _, _ => false

def same (a b : Double) : Bool :=
  match a.position?, b.position? with
  | some x, some y => x == y
  | _, _ => false

def order (a b : Double) : Ordering :=
  if a.lt b then .lt else if b.lt a then .gt else .eq

def roundUnits (negative : Bool) (num den : Nat) : Double :=
  match Magnitude.round? num den with
  | some magnitude => .finite negative magnitude
  | none => .infinite negative

def ofRatio (negative : Bool) (num den : Nat) : Double :=
  roundUnits negative (num * unitsPerOne) den

def ofInt? (value : Int) : Option Double :=
  (Magnitude.round? (value.natAbs * unitsPerOne) 1).map (.finite (decide (value < 0)))

def ofDecimal (negative : Bool) (digits : Nat) (exponent : Int) : Double :=
  if digits = 0 then .finite negative .zero
  else if 400 < exponent then .infinite negative
  else if exponent < -(digits.log2 + 1100 : Int) then .finite negative .zero
  else if 0 ≤ exponent then ofRatio negative (digits * Nat.pow 10 exponent.toNat) 1
  else ofRatio negative digits (Nat.pow 10 exponent.natAbs)

def isInteger : Double → Bool
  | .finite _ magnitude => magnitude.units % unitsPerOne == 0
  | _ => false

def truncate? : Double → Option Int
  | .finite negative magnitude => some (signed negative (magnitude.units / unitsPerOne))
  | _ => none

-- A sum of zero is negative only when both terms are.
def add : Double → Double → Double
  | .nan, _ => .nan
  | _, .nan => .nan
  | .infinite a, .infinite b => if a = b then .infinite a else .nan
  | .infinite a, .finite .. => .infinite a
  | .finite .., .infinite b => .infinite b
  | .finite a x, .finite b y =>
      let total := signed a x.units + signed b y.units
      if total = 0 then .finite (a && b) .zero
      else roundUnits (decide (total < 0)) total.natAbs 1

def mul : Double → Double → Double
  | .nan, _ => .nan
  | _, .nan => .nan
  | .infinite a, .infinite b => .infinite (a != b)
  | .infinite a, .finite b y => if y.units = 0 then .nan else .infinite (a != b)
  | .finite a x, .infinite b => if x.units = 0 then .nan else .infinite (a != b)
  | .finite a x, .finite b y => roundUnits (a != b) (x.units * y.units) unitsPerOne

def neg : Double → Double
  | .nan => .nan
  | .infinite negative => .infinite (!negative)
  | .finite negative magnitude => .finite (!negative) magnitude

end Double
end FeatureFlags
