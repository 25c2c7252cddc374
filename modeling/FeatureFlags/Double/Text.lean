import FeatureFlags.Double

/-! The text of a double: the fewest decimal digits that read back as the same double, the nearest such
decimal if there are two. -/

set_option autoImplicit false

namespace FeatureFlags

structure Decimal where
  digits : Nat
  exponent : Int
deriving DecidableEq

-- The numbers that round to one magnitude, in quarters of a unit. The ends belong to it when the
-- significand is even.
structure RoundingRange where
  low : Nat
  value : Nat
  high : Nat
  closed : Bool

namespace Magnitude

def roundingRange (magnitude : Magnitude) : RoundingRange :=
  let units := magnitude.units
  let gap := gap units
  let below := if units = Nat.pow 2 units.log2 ∧ 1 < gap then gap else 2 * gap
  { low := 4 * units - below, value := 4 * units, high := 4 * units + 2 * gap,
    closed := units / gap % 2 == 0 }

end Magnitude

namespace RoundingRange

def contains (range : RoundingRange) (scale point : Nat) : Bool :=
  if range.closed then range.low * scale ≤ point && point ≤ range.high * scale
  else range.low * scale < point && point < range.high * scale

def onGrid? (range : RoundingRange) (exponent : Int) : Option Nat :=
  let scale := Nat.pow 10 (-exponent).toNat
  let cell := 4 * unitsPerOne * Nat.pow 10 exponent.toNat
  let lower := range.value * scale / cell
  match range.contains scale (lower * cell), range.contains scale ((lower + 1) * cell) with
  | true, true => some (roundHalfEven (range.value * scale) cell)
  | true, false => some lower
  | false, true => some (lower + 1)
  | false, false => none

-- Should the steps run out, the nearest multiple of the grid reached stands.
def coarsest (range : RoundingRange) : Nat → Int → Decimal
  | 0, exponent =>
      ⟨roundHalfEven (range.value * Nat.pow 10 (-exponent).toNat)
        (4 * unitsPerOne * Nat.pow 10 exponent.toNat), exponent⟩
  | steps + 1, exponent =>
      match range.onGrid? exponent with
      | some digits => ⟨digits, exponent⟩
      | none => coarsest range steps (exponent - 1)

end RoundingRange

namespace Magnitude

def topExponent (magnitude : Magnitude) : Int :=
  ((magnitude.units.log2 : Int) - 1073) * 3 / 10 + 4

def shortest (magnitude : Magnitude) : Decimal :=
  magnitude.roundingRange.coarsest 30 magnitude.topExponent

end Magnitude

structure DecimalLayout where
  afterPoint : Int
  beforePoint : Int
  exponentMark : Char
  exponentWidth : Nat

def Double.layout : DecimalLayout := ⟨-4, 16, 'e', 2⟩

namespace DecimalLayout

def padded (width : Nat) (digits : List Char) : List Char :=
  List.replicate (width - digits.length) '0' ++ digits

def positional (digits : List Char) (point : Int) : List Char :=
  if point ≤ 0 then ['0', '.'] ++ List.replicate (-point).toNat '0' ++ digits
  else if digits.length ≤ point.toNat then
    digits ++ List.replicate (point.toNat - digits.length) '0' ++ ['.', '0']
  else digits.take point.toNat ++ ['.'] ++ digits.drop point.toNat

def scientific (layout : DecimalLayout) (digits : List Char) (point : Int) : List Char :=
  let fraction := if digits.length ≤ 1 then [] else '.' :: digits.drop 1
  let sign := if point - 1 < 0 then '-' else '+'
  digits.take 1 ++ fraction ++ [layout.exponentMark, sign] ++
    padded layout.exponentWidth (Nat.toDigits 10 (point - 1).natAbs)

def write (layout : DecimalLayout) (decimal : Decimal) : List Char :=
  let digits := Nat.toDigits 10 decimal.digits
  let point := digits.length + decimal.exponent
  if layout.afterPoint < point ∧ point ≤ layout.beforePoint then positional digits point
  else layout.scientific digits point

end DecimalLayout

namespace Magnitude

def text (magnitude : Magnitude) : List Char :=
  if magnitude.units = 0 then ['0', '.', '0'] else Double.layout.write magnitude.shortest

end Magnitude

def Double.text : Double → String
  | .nan => "nan"
  | .infinite negative => if negative then "-inf" else "inf"
  | .finite negative magnitude =>
      String.ofList (if negative then '-' :: magnitude.text else magnitude.text)

end FeatureFlags
