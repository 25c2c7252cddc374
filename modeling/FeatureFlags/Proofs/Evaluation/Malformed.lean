import FeatureFlags.Proofs.Evaluation.Decision
import FeatureFlags.Proofs.Feature.Reading
import FeatureFlags.Proofs.Json.Fields

/-! A condition that is no object is kept if it is truthy, and its rule then gives its value to nobody. A
condition that is not truthy and a range that is no pair are dropped, and the rule gives its value to whom
they would have kept out. -/

set_option autoImplicit false

namespace FeatureFlags

namespace Fields

def without (fields : Fields) (dropped : String) : Fields := fields.filter fun (key, _) => key ≠ dropped

theorem without_cons (key : String) (value : Json) (rest : Fields) (dropped : String) :
    Fields.without ((key, value) :: rest) dropped =
      if key = dropped then rest.without dropped else (key, value) :: rest.without dropped := by
  by_cases same : key = dropped <;> simp [without, same]

theorem get_without (fields : Fields) (dropped key : String) :
    (fields.without dropped).get? key = if key = dropped then none else fields.get? key := by
  induction fields with
  | nil => simp [without, get?]
  | cons field rest ih =>
      obtain ⟨other, value⟩ := field
      rw [without_cons, get_cons]
      by_cases gone : other = dropped
      · rw [if_pos gone, ih]
        by_cases same : key = dropped
        · rw [if_pos same, if_pos same]
        · rw [if_neg same, if_neg same, if_neg (gone ▸ same)]
      · rw [if_neg gone, get_cons, ih]
        by_cases here : key = other
        · rw [if_pos here, if_neg (here ▸ gone), if_pos here]
        · rw [if_neg here, if_neg here]

theorem get_without_other (fields : Fields) {dropped key : String} (different : key ≠ dropped) :
    (fields.without dropped).get? key = fields.get? key := by
  rw [get_without, if_neg different]

theorem without_null (fields : Fields) (dropped : String) : (fields.without dropped).getD dropped = .null := by
  rw [getD, get_without, if_pos rfl]
  rfl

end Fields

namespace Rule

def MalformedCondition (object : Fields) : Prop :=
  object.getD "condition" ≠ .null ∧ ∀ fields, object.getD "condition" ≠ .obj fields

def MalformedRange (object : Fields) : Prop :=
  object.getD "range" ≠ .null ∧ ∀ low high, object.getD "range" ≠ .arr [low, high]

theorem read_range_malformed (json : Json) (malformed : ∀ low high, json ≠ .arr [low, high]) :
    readRange json = .ok none := by
  rw [readRange.eq_def]
  split
  · exact absurd rfl (malformed _ _)
  · rfl

theorem ReadFrom.congr {object other : Fields} {rule : Rule} (read : rule.ReadFrom object)
    (condition : (other.getD "condition").truthy? = (object.getD "condition").truthy?)
    (range : readRange (other.getD "range") = readRange (object.getD "range"))
    (rest : ∀ key, key ≠ "condition" → key ≠ "range" → other.get? key = object.get? key) : rule.ReadFrom other := by
  have restD (key : String) (noCondition : key ≠ "condition") (noRange : key ≠ "range") :
      other.getD key = object.getD key := by
    rw [Fields.getD, Fields.getD, rest key noCondition noRange]
  obtain ⟨objects, listed, prerequisites⟩ := read.prerequisites
  exact
    { condition := read.condition.trans condition.symm
      prerequisites := ⟨objects, (restD "parentConditions" (by decide) (by decide)).symm ▸ listed, prerequisites⟩
      force := read.force.trans (rest "force" (by decide) (by decide)).symm
      coverage := (restD "coverage" (by decide) (by decide)).symm ▸ read.coverage
      range := range.trans read.range
      seed := (restD "seed" (by decide) (by decide)).symm ▸ read.seed
      hashAttribute := (restD "hashAttribute" (by decide) (by decide)).symm ▸ read.hashAttribute
      fallbackAttribute := (restD "fallbackAttribute" (by decide) (by decide)).symm ▸ read.fallbackAttribute
      hashVersion := (restD "hashVersion" (by decide) (by decide)).symm ▸ read.hashVersion
      variations := (restD "variations" (by decide) (by decide)).symm ▸ read.variations }

theorem ReadFrom.without_condition {object : Fields} {rule : Rule} (read : rule.ReadFrom object)
    (falsy : (object.getD "condition").truthy = false) : rule.ReadFrom (object.without "condition") := by
  refine read.congr ?_ ?_ fun key noCondition _ => object.get_without_other noCondition
  · rw [object.without_null, Json.truthy?, Json.truthy?, falsy]
    rfl
  · rw [Fields.getD, object.get_without_other (by decide), ← Fields.getD]

theorem ReadFrom.without_range {object : Fields} {rule : Rule} (read : rule.ReadFrom object)
    (malformed : MalformedRange object) : rule.ReadFrom (object.without "range") := by
  refine read.congr ?_ ?_ fun key _ noRange => object.get_without_other noRange
  · rw [Fields.getD, object.get_without_other (by decide), ← Fields.getD]
  · rw [object.without_null, read_range_malformed _ malformed.2]
    rfl

end Rule

namespace Condition

theorem matches_no_object (condition : Json) (actual : Operand) (noObject : ∀ fields, condition ≠ .obj fields) :
    (matchesAttributes condition actual).outcome = .ok false := by
  cases condition with
  | obj fields => exact absurd rfl (noObject fields)
  | null | bool _ | num _ | str _ | arr _ => rfl

end Condition

namespace Setting

variable {setting : Setting} {id : String} {feature : Feature} {result : Evaluated} {rule : Rule}

theorem Resolves.fires (resolves : setting.Resolves id feature result) (named : result.rule = some rule) :
    ∃ value, setting.Fires (setting.evaluateAlong [id]) id rule value := by
  cases resolves with
  | default => cases named
  | rule index _ first =>
      obtain ⟨other, _, decides⟩ := first.decides
      cases decides with
      | forced value fires =>
          cases named
          exact ⟨value, fires⟩
      | cyclic | gated => cases named

theorem Fires.condition_object {evaluate : String → Run Evaluated} {value condition : Json}
    (fires : setting.Fires evaluate id rule value) (held : rule.condition = some condition) :
    ∃ fields, condition = .obj fields := by
  by_contra noObject
  have fails := Condition.matches_no_object condition (.value (.obj setting.attributes)) (not_exists.mp noObject)
  cases fails.symm.trans (fires.condition condition held)

theorem in_rollout_everybody (coverage : rule.coverage = none) (range : rule.range = none) :
    (setting.inRollout id rule).outcome = .ok true := by
  rw [inRollout, coverage, range]
  rfl

end Setting

namespace Feature

structure MalformedGates (id : String) (feature : Feature) (object : Fields) (rule : Rule) : Prop where
  denied : Rule.MalformedCondition object → (object.getD "condition").truthy = true → ∀ setting : Setting,
    setting.features.get? id = some feature → ∀ result, (setting.evaluate id).outcome = .ok result → result.rule ≠ some rule
  conditionDropped : Rule.MalformedCondition object → (object.getD "condition").truthy = false →
    Rule.ofFields (object.without "condition") = .ok rule
  rangeDropped : Rule.MalformedRange object → Rule.ofFields (object.without "range") = .ok rule
  everybody : Rule.MalformedRange object → object.getD "coverage" = .null →
    ∀ setting : Setting, (setting.inRollout id rule).outcome = .ok true

theorem rule_malformed_gates (id : String) (feature : Feature) (object : Fields) (rule : Rule)
    (read : Rule.ofFields object = .ok rule) : feature.MalformedGates id object rule := by
  have source := (Rule.of_fields_iff object rule).mp read
  refine ⟨?_, ?_, ?_, ?_⟩
  · intro malformed truthy setting defined result ended named
    obtain ⟨value, fires⟩ := (setting.resolves id feature defined result ended).fires named
    have held : rule.condition = some (object.getD "condition") := by
      rw [source.condition, Json.truthy?, if_pos truthy]
    obtain ⟨fields, same⟩ := fires.condition_object held
    exact malformed.2 fields same
  · intro _ falsy
    exact (Rule.of_fields_iff _ rule).mpr (source.without_condition falsy)
  · intro malformed
    exact (Rule.of_fields_iff _ rule).mpr (source.without_range malformed)
  · intro malformed uncovered setting
    have coverage := source.coverage
    have range := source.range
    rw [uncovered] at coverage
    rw [Rule.read_range_malformed _ malformed.2] at range
    exact Setting.in_rollout_everybody (Except.ok.inj coverage).symm (Except.ok.inj range).symm

theorem malformed_gates (id : String) (json : Json) (feature : Feature) (read : Feature.ofJson id json = .ok feature) :
    ∃ (fields : Fields) (objects : List Fields), json = .obj fields ∧ (fields.getD "rules").objects? = some objects ∧
      List.Forall₂ (feature.MalformedGates id) objects feature.rules := by
  obtain ⟨fields, objects, same, source⟩ := (of_json_iff id json feature).mp read
  refine ⟨fields, objects, same, source.listed, ?_⟩
  exact ((map_m_ok_iff _ _ _).mp source.rules).imp fun object rule => feature.rule_malformed_gates id object rule

namespace Lottery

def range : Json := .arr [.int 0, .num (.float (.ofRatio false 1 10)), .num (.float (.ofRatio false 1 2))]

def gated (gate : String) (json : Json) : Fields := [("force", .bool true), (gate, json)]

def definition (rule : Fields) : Json := .obj [("rules", .arr [.obj rule])]

def Grants (object : Fields) : Prop :=
  ∃ feature rule, Feature.ofJson "lottery" (definition object) = .ok feature ∧ Rule.ofFields object = .ok rule ∧
    feature.rules = [rule] ∧
    ((Setting.mk [("lottery", feature)] [("id", .str "u1")] [] bucketHash false).evaluate "lottery").outcome =
      .ok ⟨"lottery", .bool true, .force, some rule⟩

end Lottery

theorem malformed_gates_grant :
    Rule.MalformedRange (Lottery.gated "range" Lottery.range) ∧ Lottery.Grants (Lottery.gated "range" Lottery.range) ∧
      Rule.MalformedCondition (Lottery.gated "condition" (.bool false)) ∧
      Lottery.Grants (Lottery.gated "condition" (.bool false)) := by
  refine ⟨⟨?_, ?_⟩, ?_, ⟨?_, ?_⟩, ?_⟩
  · intro same
    cases same
  · intro low high same
    cases same
  · refine ⟨_, _, rfl, rfl, rfl, ?_⟩
    rw [Setting.evaluate, Setting.evaluate_along_eq]
    rfl
  · intro same
    cases same
  · intro fields same
    cases same
  · refine ⟨_, _, rfl, rfl, rfl, ?_⟩
    rw [Setting.evaluate, Setting.evaluate_along_eq]
    rfl

-- A country code where a condition should stand, and one end of a range.
theorem malformed_gates_country : ∃ feature rule,
    Feature.ofJson "lottery" (Lottery.definition [("force", .bool true), ("condition", .str "CH"), ("range", .arr [.int 0])]) =
        .ok feature ∧ feature.rules = [rule] ∧
      feature.MalformedGates "lottery" [("force", .bool true), ("condition", .str "CH"), ("range", .arr [.int 0])] rule := by
  refine ⟨_, _, rfl, rfl, ?_⟩
  obtain ⟨fields, objects, whole, listed, gates⟩ := malformed_gates "lottery"
    (Lottery.definition [("force", .bool true), ("condition", .str "CH"), ("range", .arr [.int 0])]) _ rfl
  cases whole
  cases listed
  exact (List.forall₂_cons.mp gates).1

end Feature

end FeatureFlags
