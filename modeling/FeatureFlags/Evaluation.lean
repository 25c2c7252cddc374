import FeatureFlags.Bucket
import FeatureFlags.Condition
import FeatureFlags.Feature
import FeatureFlags.Rollout

/-! The rules of a feature are tried in order, and prerequisites are evaluated in the same way along a path of
features that are under way; meeting one of them again is a cycle. Each step on the path is a defined feature
that was not on it, so evaluation ends on every feature set. -/

set_option autoImplicit false

namespace FeatureFlags

inductive Source where
  | default
  | unknownFeature
  | cyclicPrerequisite
  | prerequisite
  | force
  | experiment
deriving DecidableEq, Repr

namespace Source

def name : Source → String
  | .default => "default"
  | .unknownFeature => "unknownFeature"
  | .cyclicPrerequisite => "cyclicPrerequisite"
  | .prerequisite => "prerequisite"
  | .force => "force"
  | .experiment => "experiment"

def every : List Source :=
  [.default, .unknownFeature, .cyclicPrerequisite, .prerequisite, .force, .experiment]

def ofName? (name : String) : Option Source := every.find? fun source => source.name == name

end Source

structure Evaluated where
  id : String
  value : Json
  source : Source
  rule : Option Rule

namespace Evaluated

def on (result : Evaluated) : Bool := result.value.truthy

def off (result : Evaluated) : Bool := !result.on

def ofSource (id : String) (source : Source) : Evaluated := ⟨id, .null, source, none⟩

def toFields (result : Evaluated) : Fields :=
  [("id", .str result.id), ("value", result.value), ("source", .str result.source.name),
    ("on", .bool result.on), ("off", .bool result.off)]

end Evaluated

inductive EvaluationError where
  | condition (error : ConditionError)
  | attributeName
deriving DecidableEq, Repr

structure HashCall where
  seed : String
  identity : String
  version : Int
  hash : Option Number

inductive Event where
  | evaluating
  | unknown
  | cyclic (path : List String)
  | evaluatingRule (index : Nat) (rule : Rule)
  | gateFailed (index : Nat)
  | prerequisiteFailed (index : Nat)
  | conditionFailed (index : Nat)
  | notInRollout (index : Nat)
  | notSupported (index : Nat)
  | forced (index : Nat)

inductive Step where
  | event (feature : String) (event : Event)
  | unknownOperator (name : String)
  | hashed (call : HashCall)

structure Setting where
  features : FeatureSet
  attributes : Fields
  user : Fields
  hash : HashFunction
  sticky : Bool

abbrev Run (α : Type) := Traced Step EvaluationError α

def Run.ofVerdict (verdict : Condition.Verdict) : Run Bool :=
  ⟨verdict.log.map .unknownOperator, verdict.outcome.mapError .condition⟩

inductive PrerequisiteOutcome where
  | passed
  | failed
  | gated
  | cyclic
deriving DecidableEq, Repr

namespace Setting

def lookup (setting : Setting) : Json → Except EvaluationError Json
  | .str name => match setting.attributes.get? name with
    | some value => .ok value
    | none => .ok (setting.user.getD name)
  | .arr _ | .obj _ => .error .attributeName
  | _ => .ok .null

def defaultAttribute : Json := .str "id"

-- The fallback is asked only under sticky bucketing when the attribute has no text, and counts only if it
-- has one.
def identity (setting : Setting) (primary fallback : Option Json) :
    Except EvaluationError (Json × String) := do
  let primary := (primary.bind Json.truthy?).getD defaultAttribute
  let text := (← setting.lookup primary).plainText
  match fallback.bind Json.truthy? with
  | some fallback =>
      if text.isEmpty && setting.sticky then
        let other := (← setting.lookup fallback).plainText
        return if other.isEmpty then (primary, text) else (fallback, other)
      else return (primary, text)
  | none => return (primary, text)

def defaultHashVersion : Int := 1

def nonEmpty? (text : String) : Option String := if text.isEmpty then none else some text

def inRollout (setting : Setting) (feature : String) (rule : Rule) : Run Bool :=
  if rule.coverage.isNone && rule.range.isNone then return true
  else do
    let (_, identity) ← Traced.silent (setting.identity rule.hashAttribute rule.fallbackAttribute)
    if identity.isEmpty then return false
    let seed := (rule.seed.bind nonEmpty?).getD feature
    let version := match rule.hashVersion with
      | some version => if version = 0 then defaultHashVersion else version
      | none => defaultHashVersion
    let hash := setting.hash seed identity version
    Traced.note (.hashed ⟨seed, identity, version, hash⟩)
    return Rollout.includes hash (rule.coverage.map .float)
      (rule.range.map fun (low, high) => (.float low, .float high))

def checkPrerequisites (evaluate : String → Run Evaluated) :
    List Prerequisite → Run PrerequisiteOutcome
  | [] => return .passed
  | prerequisite :: rest => do
      let result ← evaluate prerequisite.id
      if result.source = .cyclicPrerequisite then return .cyclic
      let holds ← Run.ofVerdict
        (Condition.matchesAttributes prerequisite.condition (.value (.obj [("value", result.value)])))
      if holds then checkPrerequisites evaluate rest
      else return if prerequisite.gate then .gated else .failed

def meetsCondition (setting : Setting) (rule : Rule) : Run Bool :=
  match rule.condition with
  | some condition =>
      Run.ofVerdict (Condition.matchesAttributes condition (.value (.obj setting.attributes)))
  | none => return true

def applyRule (setting : Setting) (evaluate : String → Run Evaluated) (feature : String)
    (index : Nat) (rule : Rule) : Run (Option Evaluated) := do
  let note := fun event : Event => (Traced.note (.event feature event) : Run Unit)
  note (.evaluatingRule index rule)
  match ← checkPrerequisites evaluate rule.prerequisites with
  | .cyclic => return some (.ofSource feature .cyclicPrerequisite)
  | .gated =>
      note (.gateFailed index)
      return some (.ofSource feature .prerequisite)
  | .failed =>
      note (.prerequisiteFailed index)
      return none
  | .passed =>
      if !(← setting.meetsCondition rule) then
        note (.conditionFailed index)
        return none
      let included ←
        if rule.hasForce && rule.hasRollout then setting.inRollout feature rule else pure true
      if !included then
        note (.notInRollout index)
        return none
      if rule.variations.isSome then
        note (.notSupported index)
        return none
      match rule.force with
      | some value =>
          note (.forced index)
          return some ⟨feature, value, .force, some rule⟩
      | none => return none

def applyRules (setting : Setting) (evaluate : String → Run Evaluated) (feature : String) :
    Nat → List Rule → Run (Option Evaluated)
  | _, [] => return none
  | index, rule :: rest => do
      match ← setting.applyRule evaluate feature index rule with
      | some result => return some result
      | none => applyRules setting evaluate feature (index + 1) rest

end Setting

def FeatureSet.unvisited (features : FeatureSet) (path : List String) : Nat :=
  (features.filter fun (id, _) => id ∉ path).length

theorem FeatureSet.mem_ids_of_get? {features : FeatureSet} {id : String} {feature : Feature}
    (found : features.get? id = some feature) : id ∈ features.ids := by
  induction features with
  | nil => simp [FeatureSet.get?] at found
  | cons entry rest ih =>
      obtain ⟨key, value⟩ := entry
      by_cases same : id = key
      · simp [FeatureSet.ids, same]
      · have other : (id == key) = false := by simpa using same
        simp only [FeatureSet.get?, List.lookup_cons, other] at found
        simpa [FeatureSet.ids, same] using ih found

theorem FeatureSet.unvisited_lt {features : FeatureSet} {path : List String} {id : String}
    (defined : id ∈ features.ids) (fresh : id ∉ path) :
    features.unvisited (path ++ [id]) < features.unvisited path := by
  unfold FeatureSet.unvisited
  have split : (features.filter fun (key, _) => key ∉ path ++ [id]) =
      (features.filter fun (key, _) => key ∉ path).filter fun (key, _) => key ≠ id := by
    rw [List.filter_filter]
    apply List.filter_congr
    intro entry _
    simp [and_comm]
  rw [split]
  obtain ⟨entry, member, key⟩ := List.mem_map.mp defined
  apply List.length_filter_lt_length_iff_exists.mpr
  refine ⟨entry, List.mem_filter.mpr ⟨member, ?_⟩, ?_⟩
  · simpa [key] using fresh
  · simp [key]

namespace Setting

def evaluateAlong (setting : Setting) (path : List String) (id : String) : Run Evaluated := do
  Traced.note (.event id .evaluating)
  match _found : setting.features.get? id with
  | none =>
      Traced.note (.event id .unknown)
      return .ofSource id .unknownFeature
  | some feature =>
      if _met : id ∈ path then
        Traced.note (.event id (.cyclic path))
        return .ofSource id .cyclicPrerequisite
      else
        let decided ← setting.applyRules
          (fun parent => evaluateAlong setting (path ++ [id]) parent) id 0 feature.rules
        return decided.getD ⟨id, feature.defaultValue, .default, none⟩
termination_by setting.features.unvisited path
decreasing_by exact FeatureSet.unvisited_lt (FeatureSet.mem_ids_of_get? _found) _met

def evaluate (setting : Setting) (id : String) : Run Evaluated := setting.evaluateAlong [] id

end Setting
end FeatureFlags
