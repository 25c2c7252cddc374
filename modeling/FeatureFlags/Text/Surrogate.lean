set_option autoImplicit false

namespace FeatureFlags.Text.Surrogate

def isHigh (code : Nat) : Bool := 0xd800 ≤ code && code < 0xdc00

def isLow (code : Nat) : Bool := 0xdc00 ≤ code && code < 0xe000

def join (high low : Nat) : Nat := 0x10000 + (high - 0xd800) * 0x400 + (low - 0xdc00)

def split (code : Nat) : Nat × Nat :=
  (0xd800 + (code - 0x10000) / 0x400, 0xdc00 + (code - 0x10000) % 0x400)

def joinPairs : List Nat → List Nat
  | high :: low :: rest =>
      if isHigh high && isLow low then join high low :: joinPairs rest
      else high :: joinPairs (low :: rest)
  | codes => codes

end FeatureFlags.Text.Surrogate
