import FeatureFlags.Evaluation
import FeatureFlags.Log

set_option autoImplicit false

namespace FeatureFlags

namespace Event

def level : Event → Level
  | .cyclic _ | .notSupported _ => .warning
  | _ => .debug

def name : Event → String
  | .evaluating => "evaluating_feature"
  | .unknown => "unknown_feature"
  | .cyclic _ => "cyclic_prerequisite"
  | .evaluatingRule .. => "evaluating_rule"
  | .gateFailed _ => "prerequisite_gate_failed"
  | .prerequisiteFailed _ => "skip_rule_prerequisite_failed"
  | .conditionFailed _ => "skip_rule_condition_failed"
  | .notInRollout _ => "skip_rule_not_in_rollout"
  | .notSupported _ => "skip_invalid_rule"
  | .forced _ => "forced_value"

def sortedPath (path : List String) : Json :=
  .arr ((path.mergeSort fun a b => decide (a ≤ b)).map .str)

def fields : Event → Fields
  | .evaluating | .unknown => []
  | .cyclic path => [("visiting", sortedPath path)]
  | .evaluatingRule index rule => [("rule_index", .int index), ("rule", rule.toJson)]
  | .notSupported index => [("rule_index", .int index), ("reason", .str "variations")]
  | .gateFailed index | .prerequisiteFailed index | .conditionFailed index | .notInRollout index
  | .forced index => [("rule_index", .int index)]

end Event

def Step.record? : Step → Option Record
  | .event feature happened =>
      some ⟨happened.level, happened.name, ("feature", .str feature) :: happened.fields⟩
  | .unknownOperator name => some ⟨.debug, "unknown_operator", [("operator", .str name)]⟩
  | .hashed _ => none

def Step.call? : Step → Option HashCall
  | .hashed call => some call
  | _ => none

end FeatureFlags
