import FeatureFlags.Operator
import FeatureFlags.Traced

/-! A condition is an object: the first of the combinators that it has decides it alone, otherwise each of its
fields is a path whose value has to match. Operators that do not exist hold of nothing and are logged. -/

set_option autoImplicit false

namespace FeatureFlags.Condition

abbrev Verdict := Traced String ConditionError Bool

inductive Combinator where
  | or
  | nor
  | and
  | not
deriving DecidableEq, Repr

namespace Combinator

def name : Combinator → String
  | .or => "$or"
  | .nor => "$nor"
  | .and => "$and"
  | .not => "$not"

def every : List Combinator := [.or, .nor, .and, .not]

end Combinator

def combinatorOf? (fields : Fields) : Option Combinator :=
  Combinator.every.find? fun combinator => fields.any fun (key, _) => key == combinator.name

def isOperatorObject (fields : Fields) : Bool :=
  !fields.isEmpty && fields.all fun (key, _) => key.toList.head? == some '$'

def hasOperators : Json → Bool
  | .obj fields => isOperatorObject fields
  | _ => false

def isObject : Json → Bool
  | .obj _ => true
  | _ => false

def sizeOperand (items : List Json) : Operand := .value (.int items.length)

def applyOperator (name : String) (operand : Json) (actual : Operand)
    (asValue asCondition : Operand → Verdict) (among : List Json → Verdict) : Verdict :=
  match Operator.ofName? name with
  | none => do
      Traced.note name
      return false
  | some .negation => do return !(← asValue actual)
  | some .size => match actual with
    | .value (.arr items) => asValue (sizeOperand items)
    | _ => pure false
  | some .elemMatch => match actual with
    | .value (.arr items) =>
        items.anyM fun item =>
          if hasOperators operand then asValue (.value item) else asCondition (.value item)
    | _ => pure false
  | some .all => match actual with
    | .value (.arr items) => among items
    | _ => pure false
  | some operator => Traced.silent (operator.holds actual (.value operand))

mutual
def matchesAttributes : Json → Operand → Verdict
  | .obj fields, attributes => match combinatorOf? fields with
    | some combinator => combined fields combinator attributes
    | none => matchesPaths fields attributes
  | _, _ => pure false
termination_by structural condition => condition
def combined : List (String × Json) → Combinator → Operand → Verdict
  | [], _, _ => pure false
  | (key, operand) :: rest, combinator, attributes =>
      if key ≠ combinator.name then combined rest combinator attributes
      else match combinator with
        | .or =>
            if isObject operand then matchesAttributes operand attributes
            else matchesAny operand attributes
        | .nor => do
            let verdict ←
              if isObject operand then matchesAttributes operand attributes
              else matchesAny operand attributes
            return !verdict
        | .and =>
            if isObject operand then matchesAttributes operand attributes
            else matchesAll operand attributes
        | .not => do return !(← matchesAttributes operand attributes)
termination_by structural condition => condition
-- An empty list of alternatives holds.
def matchesAny : Json → Operand → Verdict
  | .arr [], _ => pure true
  | .arr (first :: others), attributes => do
      if ← matchesAttributes first attributes then return true
      else matchesSome others attributes
  | _, _ => pure false
termination_by structural condition => condition
def matchesSome : List Json → Operand → Verdict
  | [], _ => pure false
  | condition :: rest, attributes => do
      if ← matchesAttributes condition attributes then return true
      else matchesSome rest attributes
termination_by structural condition => condition
def matchesAll : Json → Operand → Verdict
  | .arr conditions, attributes => matchesEvery conditions attributes
  | _, _ => pure false
termination_by structural condition => condition
def matchesEvery : List Json → Operand → Verdict
  | [], _ => pure true
  | condition :: rest, attributes => do
      if ← matchesAttributes condition attributes then matchesEvery rest attributes
      else return false
termination_by structural condition => condition
def matchesPaths : List (String × Json) → Operand → Verdict
  | [], _ => pure true
  | (path, value) :: rest, attributes => do
      if ← matchesValue value (attributes.path path) then matchesPaths rest attributes
      else return false
termination_by structural condition => condition
def matchesValue : Json → Operand → Verdict
  | .obj fields, actual =>
      if isOperatorObject fields then matchesOperators fields actual
      else match actual with
        | .value (.obj others) =>
            if fields.length = others.length then matchesFields fields others
            else pure false
        | _ => pure false
  | .arr values, actual => match actual with
    | .value (.arr items) =>
        if values.length = items.length then matchesItems values items else pure false
    | _ => pure false
  | literal, actual => Traced.silent (Operand.equalsLiteral (.value literal) actual)
termination_by structural condition => condition
def matchesItems : List Json → List Json → Verdict
  | value :: rest, item :: items => do
      if ← matchesValue value (.value item) then matchesItems rest items else return false
  | _, _ => pure true
termination_by structural condition => condition
def matchesFields : List (String × Json) → List (String × Json) → Verdict
  | [], _ => pure true
  | (key, value) :: rest, others => match Fields.get? others key with
    | some found => do
        if ← matchesValue value (.value found) then matchesFields rest others
        else return false
    | none => pure false
termination_by structural condition => condition
def matchesOperators : List (String × Json) → Operand → Verdict
  | [], _ => pure true
  | (name, operand) :: rest, actual => do
      if ← applyOperator name operand actual (matchesValue operand) (matchesAttributes operand)
          (matchesAmong operand)
      then matchesOperators rest actual
      else return false
termination_by structural condition => condition
-- Every value of the list matches one of the items.
def matchesAmong : Json → List Json → Verdict
  | .arr values, items => eachAmong values items
  | _, _ => pure false
termination_by structural condition => condition
def eachAmong : List Json → List Json → Verdict
  | [], _ => pure true
  | value :: rest, items => do
      if ← items.anyM fun item => matchesValue value (.value item) then eachAmong rest items
      else return false
termination_by structural condition => condition

end

def matchesOperator (name : String) (actual expected : Operand) : Verdict :=
  match expected with
  | .value operand =>
      applyOperator name operand actual (matchesValue operand) (matchesAttributes operand)
        (matchesAmong operand)
  | expected => match Operator.ofName? name with
    | none => do
        Traced.note name
        return false
    | some .negation => pure true
    | some operator => Traced.silent (operator.holds actual expected)

def matchesOperand (expected actual : Operand) : Verdict :=
  match expected with
  | .value value => matchesValue value actual
  | _ => pure false

def holds (condition attributes : Operand) : Verdict :=
  match condition with
  | .value json => matchesAttributes json attributes
  | _ => pure false

end FeatureFlags.Condition
