import FeatureFlags.Number

set_option autoImplicit false

namespace FeatureFlags.Rollout

def inRange (hash low high : Number) : Bool := low.le hash && hash.lt high

-- Without coverage and range everybody is in; without a hash nobody is. A range takes precedence over
-- a coverage.
def includes (hash coverage : Option Number) (range : Option (Number × Number)) : Bool :=
  match hash, coverage, range with
  | _, none, none => true
  | none, _, _ => false
  | some hash, _, some (low, high) => inRange hash low high
  | some hash, some coverage, none => hash.lt coverage

end FeatureFlags.Rollout
