import FeatureFlags.Comparison
import FeatureFlags.Version

/-! `Operator.holds` decides the operators that look at their two operands alone; those that match conditions
inside their operand are decided together with conditions. -/

set_option autoImplicit false

namespace FeatureFlags

inductive Relation where
  | eq
  | ne
  | lt
  | lte
  | gt
  | gte
deriving DecidableEq, Repr

namespace Relation

def accepts : Relation → Ordering → Bool
  | .eq, order => order == .eq
  | .ne, order => order != .eq
  | .lt, order => order == .lt
  | .lte, order => order != .gt
  | .gt, order => order == .gt
  | .gte, order => order != .lt

def name : Relation → String
  | .eq => "eq"
  | .ne => "ne"
  | .lt => "lt"
  | .lte => "lte"
  | .gt => "gt"
  | .gte => "gte"

def every : List Relation := [.eq, .ne, .lt, .lte, .gt, .gte]

end Relation

inductive Operator where
  | order (relation : Relation)
  | version (relation : Relation)
  | regex
  | isIn
  | notIn
  | isPresent
  | hasType
  | elemMatch
  | size
  | all
  | negation
deriving DecidableEq, Repr

namespace Operator

def name : Operator → String
  | .order relation => "$" ++ relation.name
  | .version relation => "$v" ++ relation.name
  | .regex => "$regex"
  | .isIn => "$in"
  | .notIn => "$nin"
  | .isPresent => "$exists"
  | .hasType => "$type"
  | .elemMatch => "$elemMatch"
  | .size => "$size"
  | .all => "$all"
  | .negation => "$not"

def every : List Operator :=
  Relation.every.map .order ++ Relation.every.map .version ++
    [.regex, .isIn, .notIn, .isPresent, .hasType, .elemMatch, .size, .all, .negation]

def ofName? (name : String) : Option Operator := every.find? fun operator => operator.name == name

def names : List String := (every.map name).mergeSort fun a b => decide (a ≤ b)

def holds (operator : Operator) (actual expected : Operand) : Checked Bool :=
  match operator with
  | .order relation => do
      let order ← Operand.compare actual expected
      return order.any relation.accepts
  | .version relation =>
      return relation.accepts (textOrder (Version.key actual) (Version.key expected))
  | .regex => Operand.matchesPattern expected actual
  | .isIn => match expected with
      | .value (.arr values) => Operand.isIn values actual
      | _ => return false
  | .notIn => match expected with
      | .value (.arr values) => do return !(← Operand.isIn values actual)
      | _ => return false
  | .isPresent => match expected with
      | .value json => return json.truthy != actual.isAbsent
      | _ => return actual.isAbsent
  | .hasType => match expected with
      | .value (.str type) => return actual.typeName == type
      | _ => return false
  | .elemMatch | .size | .all | .negation => return false

end Operator
end FeatureFlags
