import FeatureFlags.Double

/-! A cache whose entries expire. The clock is part of it and moves only by `advance`. -/

set_option autoImplicit false

namespace FeatureFlags

structure CacheEntry (Value : Type) where
  value : Value
  expires : Double

structure Cache (Value : Type) where
  now : Double
  entries : List (String × CacheEntry Value)

namespace Cache

variable {Value : Type}

def empty (now : Double) : Cache Value := ⟨now, []⟩

def isExpired (cache : Cache Value) (entry : CacheEntry Value) : Bool := entry.expires.le cache.now

def drop (cache : Cache Value) (key : String) : Cache Value :=
  { cache with entries := cache.entries.filter fun (other, _) => other != key }

def get (cache : Cache Value) (key : String) : Option Value × Cache Value :=
  match cache.entries.lookup key with
  | none => (none, cache)
  | some entry =>
      if cache.isExpired entry then (none, cache.drop key) else (some entry.value, cache)

def set (cache : Cache Value) (key : String) (value : Value) (ttl : Double) : Cache Value :=
  { cache with entries := (key, ⟨value, cache.now.add ttl⟩) :: (cache.drop key).entries }

def clear (cache : Cache Value) : Cache Value := { cache with entries := [] }

def advance (cache : Cache Value) (seconds : Double) : Cache Value :=
  { cache with now := cache.now.add seconds }

def keys (cache : Cache Value) : List String := cache.entries.map Prod.fst

end Cache
end FeatureFlags
