import FeatureFlags.Feature
import FeatureFlags.Proofs.Result

set_option autoImplicit false

namespace FeatureFlags

namespace Rule

structure ReadFrom (fields : Fields) (rule : Rule) : Prop where
  condition : rule.condition = (fields.getD "condition").truthy?
  prerequisites : ∃ objects, (fields.getD "parentConditions").objects? = some objects ∧
    rule.prerequisites = objects.map Prerequisite.ofFields
  force : rule.force = fields.get? "force"
  coverage : readOptional Json.toDouble (fields.getD "coverage") = .ok rule.coverage
  range : readRange (fields.getD "range") = .ok rule.range
  seed : rule.seed = (fields.getD "seed").nonNull?.map Json.display
  hashAttribute : rule.hashAttribute = (fields.getD "hashAttribute").nonNull?
  fallbackAttribute : rule.fallbackAttribute = (fields.getD "fallbackAttribute").nonNull?
  hashVersion : readOptional Json.toInteger (fields.getD "hashVersion") = .ok rule.hashVersion
  variations : rule.variations = (fields.getD "variations").nonNull?

def readPrerequisites (json : Json) : Except RuleError (List Prerequisite) :=
  match json.objects? with
  | some objects => .ok (objects.map Prerequisite.ofFields)
  | none => .error .prerequisites

def assemble (fields : Fields) (range : Option (Double × Double)) (prerequisites : List Prerequisite)
    (coverage : Option Double) (hashVersion : Option Int) : Rule :=
  { condition := (fields.getD "condition").truthy?
    prerequisites := prerequisites
    force := fields.get? "force"
    coverage := coverage
    range := range
    seed := (fields.getD "seed").nonNull?.map Json.display
    hashAttribute := (fields.getD "hashAttribute").nonNull?
    fallbackAttribute := (fields.getD "fallbackAttribute").nonNull?
    hashVersion := hashVersion
    variations := (fields.getD "variations").nonNull? }

theorem of_fields_eq (fields : Fields) : Rule.ofFields fields = (do
    let range ← (readRange (fields.getD "range")).mapError .conversion
    let prerequisites ← readPrerequisites (fields.getD "parentConditions")
    let coverage ← (readOptional Json.toDouble (fields.getD "coverage")).mapError .conversion
    let hashVersion ← (readOptional Json.toInteger (fields.getD "hashVersion")).mapError .conversion
    return assemble fields range prerequisites coverage hashVersion) := by
  unfold ofFields readPrerequisites
  refine bind_congr fun range => ?_
  cases (fields.getD "parentConditions").objects? <;> rfl

theorem read_prerequisites_ok_iff (json : Json) (prerequisites : List Prerequisite) :
    readPrerequisites json = .ok prerequisites ↔
      ∃ objects, json.objects? = some objects ∧ prerequisites = objects.map Prerequisite.ofFields := by
  unfold readPrerequisites
  cases json.objects? with
  | none => simp
  | some objects => simp [eq_comm]

theorem of_fields_iff (fields : Fields) (rule : Rule) : Rule.ofFields fields = .ok rule ↔ rule.ReadFrom fields := by
  simp only [of_fields_eq, bind_ok_iff, map_error_ok_iff, read_prerequisites_ok_iff]
  constructor
  · rintro ⟨range, rangeRead, prerequisites, objects, coverage, coverageRead, hashVersion, versionRead, same⟩
    cases same
    exact ⟨rfl, objects, rfl, coverageRead, rangeRead, rfl, rfl, rfl, versionRead, rfl⟩
  · intro read
    refine ⟨rule.range, read.range, rule.prerequisites, read.prerequisites, rule.coverage, read.coverage,
      rule.hashVersion, read.hashVersion, ?_⟩
    rw [assemble, ← read.condition, ← read.force, ← read.seed, ← read.hashAttribute, ← read.fallbackAttribute,
      ← read.variations]
    rfl

end Rule

namespace Feature

structure ReadFrom (id : String) (fields : Fields) (objects : List Fields) (feature : Feature) : Prop where
  id : feature.id = id
  defaultValue : feature.defaultValue = fields.getD "defaultValue"
  listed : (fields.getD "rules").objects? = some objects
  rules : objects.mapM Rule.ofFields = .ok feature.rules

theorem of_json_iff (id : String) (json : Json) (feature : Feature) : Feature.ofJson id json = .ok feature ↔
    ∃ fields objects, json = .obj fields ∧ feature.ReadFrom id fields objects := by
  cases json with
  | obj fields =>
      rw [ofJson, ofFields]
      cases held : (Fields.getD fields "rules").objects? with
      | none =>
          constructor
          · intro impossible
            cases impossible
          · rintro ⟨_, objects, same, read⟩
            cases same
            cases held.symm.trans read.listed
      | some objects =>
          simp only [bind_ok_iff, map_error_ok_iff]
          constructor
          · rintro ⟨rules, read, same⟩
            cases same
            exact ⟨fields, objects, rfl, rfl, rfl, held, read⟩
          · rintro ⟨_, others, same, read⟩
            cases same
            cases held.symm.trans read.listed
            refine ⟨feature.rules, read.rules, ?_⟩
            rw [← read.id, ← read.defaultValue]
            rfl
  | null | bool _ | num _ | str _ | arr _ => simp [ofJson]

inductive Refused (id : String) (json : Json) : FeatureError → Prop where
  | notAnObject : Refused id json (.notAnObject id)
  | rulesNotObjects : Refused id json (.rulesNotObjects id)
  | rule (fields : Fields) (objects : List Fields) (object : Fields) (error : RuleError) (whole : json = .obj fields)
      (read : (fields.getD "rules").objects? = some objects) (among : object ∈ objects)
      (refused : Rule.ofFields object = .error error) : Refused id json (FeatureError.ofRuleError id error)

theorem of_json_refused (id : String) (json : Json) (error : FeatureError) (refused : Feature.ofJson id json = .error error) :
    Refused id json error := by
  cases json with
  | obj fields =>
      rw [ofJson, ofFields] at refused
      cases held : (Fields.getD fields "rules").objects? with
      | none =>
          rw [held] at refused
          cases refused
          exact .rulesNotObjects
      | some objects =>
          simp only [held, bind_error_iff, map_error_error_iff] at refused
          rcases refused with ⟨cause, failed, same⟩ | ⟨rules, _, done⟩
          · obtain ⟨object, among, failed⟩ := map_m_error Rule.ofFields objects cause failed
            exact same ▸ .rule fields objects object cause rfl held among failed
          · cases done
  | null | bool _ | num _ | str _ | arr _ =>
      cases refused
      exact .notAnObject

end Feature
end FeatureFlags
