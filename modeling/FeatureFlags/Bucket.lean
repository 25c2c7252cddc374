import FeatureFlags.Number

/-! The hash that spreads identities over [0, 1). Version 2 takes the fingerprint of a fingerprint, so that
seeds of similar spelling do not move together. -/

set_option autoImplicit false

namespace FeatureFlags

namespace Fingerprint

def offset : UInt32 := 0x811c9dc5

def prime : UInt32 := 0x01000193

def step (state : UInt32) (c : Char) : UInt32 := (state ^^^ c.val) * prime

end Fingerprint

def fingerprint (text : String) : UInt32 := text.toList.foldl Fingerprint.step Fingerprint.offset

def bucket (seed identity : String) (version : Int) : Option Double :=
  if version = 2 then
    let inner := toString (fingerprint (seed ++ identity)).toNat
    some (Double.ofRatio false ((fingerprint inner).toNat % 10000) 10000)
  else if version = 1 then
    some (Double.ofRatio false ((fingerprint (identity ++ seed)).toNat % 1000) 1000)
  else none

abbrev HashFunction := String → String → Int → Option Number

def bucketHash : HashFunction := fun seed identity version =>
  (bucket seed identity version).map .float

end FeatureFlags
