import FeatureFlags.Number

/-! JSON values with objects as ordered lists of fields. A reader keeps the last of repeated keys, so the keys
of an object that was read are distinct. -/

set_option autoImplicit false

namespace FeatureFlags

inductive Json where
  | null
  | bool (value : Bool)
  | num (value : Number)
  | str (value : String)
  | arr (items : List Json)
  | obj (fields : List (String × Json))
deriving Inhabited

abbrev Fields := List (String × Json)

namespace Fields

def get? (fields : Fields) (key : String) : Option Json := fields.lookup key

def contains (fields : Fields) (key : String) : Bool := (fields.get? key).isSome

def set (key : String) (value : Json) : Fields → Fields
  | [] => [(key, value)]
  | (other, old) :: rest =>
      if other = key then (key, value) :: rest else (other, old) :: set key value rest

def keys (fields : Fields) : List String := fields.map Prod.fst

def getD (fields : Fields) (key : String) : Json := (fields.get? key).getD .null

end Fields

namespace Json

def int (value : Int) : Json := .num (.int value)

def isNull : Json → Bool
  | .null => true
  | _ => false

def truthy : Json → Bool
  | .null => false
  | .bool value => value
  | .num value => !value.isZero
  | .str value => !value.isEmpty
  | .arr items => !items.isEmpty
  | .obj fields => !fields.isEmpty

def asNumber? : Json → Option Number
  | .bool value => some (.int (if value then 1 else 0))
  | .num value => some value
  | _ => none

mutual
def DistinctKeys : Json → Prop
  | .arr items => DistinctItems items
  | .obj fields => (fields.map Prod.fst).Nodup ∧ DistinctFields fields
  | _ => True
termination_by structural json => json
def DistinctItems : List Json → Prop
  | [] => True
  | item :: rest => DistinctKeys item ∧ DistinctItems rest
termination_by structural json => json
def DistinctFields : List (String × Json) → Prop
  | [] => True
  | (_, value) :: rest => DistinctKeys value ∧ DistinctFields rest
termination_by structural json => json
end

def sameNumber (a : Number) (other : Json) : Bool :=
  match other.asNumber? with
  | some b => a.same b
  | none => false

mutual
-- Equality by value: booleans count as numbers, and objects are compared without regard to the order of
-- their fields. NaN is unequal inside a container too, even where one and the same NaN stands on both
-- sides.
def same : Json → Json → Bool
  | .null, .null => true
  | .bool a, other => sameNumber (.int (if a then 1 else 0)) other
  | .num a, other => sameNumber a other
  | .str a, .str b => a == b
  | .arr items, .arr others => sameItems items others
  | .obj fields, .obj others => fields.length == others.length && sameFields fields others
  | _, _ => false
termination_by structural json => json
def sameItems : List Json → List Json → Bool
  | [], [] => true
  | a :: rest, b :: others => same a b && sameItems rest others
  | _, _ => false
termination_by structural json => json
def sameFields : List (String × Json) → List (String × Json) → Bool
  | [], _ => true
  | (key, a) :: rest, others =>
      (match others.lookup key with
        | some b => same a b
        | none => false) && sameFields rest others
termination_by structural json => json
end

end Json
end FeatureFlags
