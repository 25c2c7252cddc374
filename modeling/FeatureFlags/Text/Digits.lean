set_option autoImplicit false

namespace FeatureFlags.Text

def digitIn? (base : Nat) (c : Char) : Option Nat :=
  let value :=
    if c.isDigit then some (c.toNat - '0'.toNat)
    else if 'a' ≤ c ∧ c ≤ 'f' then some (c.toNat - 'a'.toNat + 10)
    else if 'A' ≤ c ∧ c ≤ 'F' then some (c.toNat - 'A'.toNat + 10)
    else none
  value.filter (· < base)

def isDigitIn (base : Nat) (c : Char) : Bool := (digitIn? base c).isSome

def valueIn (base : Nat) (digits : List Char) : Nat :=
  digits.foldl (fun total c => total * base + (digitIn? base c).getD 0) 0

def hexDigits (width : Nat) (value : Nat) : List Char :=
  let digits := Nat.toDigits 16 value
  List.replicate (width - digits.length) '0' ++ digits

end FeatureFlags.Text
