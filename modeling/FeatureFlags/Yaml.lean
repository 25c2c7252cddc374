import FeatureFlags.Json

/-! Maps keep only entries whose keys are texts; scalars that are neither numbers nor texts nor words, such as
dates, are `foreign`. -/

set_option autoImplicit false

namespace FeatureFlags

inductive Yaml where
  | null
  | bool (value : Bool)
  | num (value : Number)
  | text (value : String)
  | bytes (content : Option String)
  | foreign
  | list (items : List Yaml)
  | map (entries : List (String × Yaml))
deriving Inhabited

namespace Yaml

def setEntry (key : String) (value : Yaml) : List (String × Yaml) → List (String × Yaml)
  | [] => [(key, value)]
  | (other, old) :: rest =>
      if other = key then (key, value) :: rest else (other, old) :: setEntry key value rest

def truthy : Yaml → Bool
  | .null => false
  | .bool value => value
  | .num value => !value.isZero
  | .text value => !value.isEmpty
  | .bytes content => content != some ""
  | .foreign => true
  | .list items => !items.isEmpty
  | .map entries => !entries.isEmpty

mutual
def ofJson : Json → Yaml
  | .null => .null
  | .bool value => .bool value
  | .num value => .num value
  | .str value => .text value
  | .arr items => .list (ofItems items)
  | .obj fields => .map (ofFields fields)
termination_by structural json => json
def ofItems : List Json → List Yaml
  | [] => []
  | item :: rest => ofJson item :: ofItems rest
termination_by structural json => json
def ofFields : List (String × Json) → List (String × Yaml)
  | [] => []
  | (key, value) :: rest => (key, ofJson value) :: ofFields rest
termination_by structural json => json
end

end Yaml
end FeatureFlags
