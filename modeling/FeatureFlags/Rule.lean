import FeatureFlags.Json.Conversion
import FeatureFlags.Report

/-! Reading a rule normalises it: a condition that is not truthy and a range that is not a pair are dropped,
numbers become doubles or integers, and a seed becomes a text. A `force` of null is kept apart from none. -/

set_option autoImplicit false

namespace FeatureFlags

structure Prerequisite where
  id : String
  condition : Json
  gate : Bool
deriving Inhabited

structure Rule where
  condition : Option Json
  prerequisites : List Prerequisite
  force : Option Json
  coverage : Option Double
  range : Option (Double × Double)
  seed : Option String
  hashAttribute : Option Json
  fallbackAttribute : Option Json
  hashVersion : Option Int
  variations : Option Json

inductive RuleError where
  | prerequisites
  | conversion (error : Json.ConversionError)
deriving DecidableEq, Repr

namespace RuleError

def message : RuleError → String
  | .prerequisites => "parentConditions must be a list of objects"
  | .conversion error => error.message

def report (error : RuleError) : Report := .invalidFeature error.message

end RuleError

def Json.nonNull? : Json → Option Json
  | .null => none
  | json => some json

def Json.truthy? (json : Json) : Option Json := if json.truthy then some json else none

def Json.objects? (json : Json) : Option (List Fields) :=
  if json.truthy then match json with
    | .arr items => items.mapM fun item => match item with
      | .obj fields => some fields
      | _ => none
    | _ => none
  else some []

namespace Prerequisite

def ofFields (fields : Fields) : Prerequisite :=
  { id := match fields.get? "id" with
      | some id => id.display
      | none => "",
    condition := ((fields.getD "condition").truthy?).getD (.obj []),
    gate := (fields.getD "gate").truthy }

def toJson (prerequisite : Prerequisite) : Json :=
  .obj [("id", .str prerequisite.id), ("condition", prerequisite.condition),
    ("gate", .bool prerequisite.gate)]

end Prerequisite

namespace Rule

def readRange : Json → Except Json.ConversionError (Option (Double × Double))
  | .arr [low, high] => do
      let low ← low.toDouble
      let high ← high.toDouble
      return some (low, high)
  | _ => return none

def readOptional {α : Type} (convert : Json → Except Json.ConversionError α) (json : Json) :
    Except Json.ConversionError (Option α) :=
  match json.nonNull? with
  | none => return none
  | some value => some <$> convert value

-- Of several faults the first in the order range, prerequisites, coverage, hash version is reported.
def ofFields (fields : Fields) : Except RuleError Rule := do
  let range ← (readRange (fields.getD "range")).mapError .conversion
  let prerequisites ← match (fields.getD "parentConditions").objects? with
    | some objects => pure (objects.map Prerequisite.ofFields)
    | none => throw .prerequisites
  let coverage ← (readOptional Json.toDouble (fields.getD "coverage")).mapError .conversion
  let hashVersion ← (readOptional Json.toInteger (fields.getD "hashVersion")).mapError .conversion
  return {
    condition := (fields.getD "condition").truthy?
    prerequisites := prerequisites
    force := fields.get? "force"
    coverage := coverage
    range := range
    seed := (fields.getD "seed").nonNull?.map Json.display
    hashAttribute := (fields.getD "hashAttribute").nonNull?
    fallbackAttribute := (fields.getD "fallbackAttribute").nonNull?
    hashVersion := hashVersion
    variations := (fields.getD "variations").nonNull? }

def entry {α : Type} (key : String) (write : α → Json) (value : Option α) : Fields :=
  (value.map fun value => (key, write value)).toList

def double (value : Double) : Json := .num (.float value)

def toFields (rule : Rule) : Fields :=
  entry "condition" id rule.condition ++
  (if rule.prerequisites.isEmpty then []
    else [("parentConditions", .arr (rule.prerequisites.map Prerequisite.toJson))]) ++
  entry "force" id rule.force ++
  entry "coverage" double rule.coverage ++
  entry "range" (fun (low, high) => .arr [double low, double high]) rule.range ++
  entry "seed" Json.str rule.seed ++
  entry "hashAttribute" id rule.hashAttribute ++
  entry "fallbackAttribute" id rule.fallbackAttribute ++
  entry "hashVersion" Json.int rule.hashVersion ++
  entry "variations" id rule.variations

def toJson (rule : Rule) : Json := .obj rule.toFields

def hasForce (rule : Rule) : Bool := rule.force.isSome

def hasRollout (rule : Rule) : Bool :=
  rule.coverage.isSome || rule.range.isSome || rule.seed.isSome || rule.hashAttribute.isSome

end Rule
end FeatureFlags
