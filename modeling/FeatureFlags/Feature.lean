import FeatureFlags.Rule

set_option autoImplicit false

namespace FeatureFlags

structure Feature where
  id : String
  defaultValue : Json
  rules : List Rule

inductive FeatureError where
  | notAnObject (id : String)
  | rulesNotObjects (id : String)
  | invalidRule (id : String) (error : RuleError)
  | tooLarge (wanted : Json.NumberKind)
deriving DecidableEq, Repr

namespace FeatureError

def message : FeatureError → String
  | .notAnObject id => "Feature definition must be an object: " ++ id
  | .rulesNotObjects id => "Feature rules must be a list of objects: " ++ id
  | .invalidRule id error => "Invalid rule in feature " ++ id ++ ": " ++ error.message
  | .tooLarge wanted => (Json.ConversionError.tooLarge wanted).message

def report (error : FeatureError) : Report := .invalidFeature error.message

def isReported : FeatureError → Bool
  | .tooLarge _ => false
  | _ => true

def ofRuleError (id : String) : RuleError → FeatureError
  | .conversion (.tooLarge wanted) => .tooLarge wanted
  | error => .invalidRule id error

end FeatureError

namespace Feature

def ofFields (id : String) (fields : Fields) : Except FeatureError Feature :=
  match (fields.getD "rules").objects? with
  | none => .error (.rulesNotObjects id)
  | some objects => do
      let rules ← (objects.mapM Rule.ofFields).mapError (FeatureError.ofRuleError id)
      return { id, defaultValue := fields.getD "defaultValue", rules }

def ofJson (id : String) : Json → Except FeatureError Feature
  | .obj fields => ofFields id fields
  | _ => .error (.notAnObject id)

def toJson (feature : Feature) : Json :=
  .obj [("defaultValue", feature.defaultValue), ("rules", .arr (feature.rules.map Rule.toJson))]

end Feature

abbrev FeatureSet := List (String × Feature)

namespace FeatureSet

def get? (features : FeatureSet) (id : String) : Option Feature := features.lookup id

def ids (features : FeatureSet) : List String := features.map Prod.fst

def set (id : String) (feature : Feature) : FeatureSet → FeatureSet
  | [] => [(id, feature)]
  | (other, old) :: rest =>
      if other = id then (id, feature) :: rest else (other, old) :: set id feature rest

def ofFields (fields : Fields) : Except FeatureError FeatureSet :=
  fields.mapM fun (id, json) => do return (id, ← Feature.ofJson id json)

end FeatureSet
end FeatureFlags
